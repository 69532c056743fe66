import Waymark.Proofs.Summary.Measure
import Waymark.Proofs.Table

/-! Summing up records in another order. Two records that follow each other can be added the other way round, so
every order of the records gives the same tally and the same summary.
-/

set_option autoImplicit false

namespace Waymark

theorem Count.add_swap {x a y b z : Count} (first : Count.add x a = .ok y) (second : Count.add y b = .ok z) :
    ∃ other, Count.add x b = .ok other ∧ Count.add other a = .ok z := by
  obtain ⟨rfl, sum⟩ := add_ok first
  obtain ⟨rfl, total⟩ := add_ok second
  have within := UInt64.toNat_lt (x + a + b)
  have limit : Count.limit = 2 ^ 64 := rfl
  have early : x.toNat + b.toNat < Count.limit := by omega
  have late : (x + b).toNat + a.toNat < Count.limit := by
    rw [(add_ok (add_of_fits early)).2]
    omega
  refine ⟨x + b, add_of_fits early, ?_⟩
  rw [add_of_fits late, UInt64.add_assoc, UInt64.add_comm b a, UInt64.add_assoc]

variable {a b record : FileRecord} {records others : List FileRecord} {prior : Option Summary}
  {verbosity : Verbosity} {report : RunReport} {now : Time} {summary : Summary}

theorem LanguageCount.Grows.swap {old mid new : LanguageCount} (first : old.Grows a mid) (second : mid.Grows b new) :
    ∃ other, old.Grows b other ∧ LanguageCount.Grows other a new := by
  obtain ⟨functions, early, late⟩ := Count.add_swap first.functions second.functions
  exact ⟨⟨mid.files, functions⟩, ⟨first.files, early⟩, ⟨second.files, late⟩⟩

theorem LanguageDetail.Grows.swap {old mid new : LanguageDetail} (first : old.Grows a mid)
    (second : mid.Grows b new) : ∃ other, old.Grows b other ∧ LanguageDetail.Grows other a new := by
  obtain ⟨functions, early, late⟩ := Count.add_swap first.functions second.functions
  obtain ⟨documented, early', late'⟩ := Count.add_swap first.documented second.documented
  obtain ⟨lines, early'', late''⟩ := Count.add_swap first.lines second.lines
  exact ⟨⟨mid.files, functions, documented, mid.coverage, lines⟩,
    ⟨first.files, early, early', early'', first.coverage⟩, ⟨second.files, late, late', late'', second.coverage⟩⟩

/-- The value of a record's language grows by the record, from nothing if there is none yet. -/
def Table.Grows {α : Type} [Inhabited α] (grows : α → FileRecord → α → Prop) (old : Table α) (record : FileRecord)
    (new : Table α) : Prop :=
  ∃ value, grows ((old.get? record.language).getD default) record value ∧ new = old.insert record.language value

theorem Table.Grows.swap {α : Type} [Inhabited α] {grows : α → FileRecord → α → Prop}
    (swap : ∀ {old a mid b new}, grows old a mid → grows mid b new →
      ∃ other, grows old b other ∧ grows other a new)
    {old mid new : Table α} (first : Table.Grows grows old a mid) (second : Table.Grows grows mid b new) :
    ∃ other, Table.Grows grows old b other ∧ Table.Grows grows other a new := by
  obtain ⟨value, grown, rfl⟩ := first
  obtain ⟨later, grown', rfl⟩ := second
  rw [get?_insert] at grown'
  -- Records of one language grow one value twice; those of two languages grow values that stand apart.
  by_cases same : b.language = a.language
  · rw [if_pos same, Option.getD_some] at grown'
    obtain ⟨other, early, late⟩ := swap grown grown'
    refine ⟨old.insert a.language other, ⟨other, by rwa [same], by rw [same]⟩, later, ?_, ?_⟩
    · rwa [get?_insert, if_pos rfl, Option.getD_some]
    · rw [same, insert_insert, insert_insert]
  · rw [if_neg same] at grown'
    refine ⟨old.insert b.language later, ⟨later, grown', rfl⟩, value, ?_, ?_⟩
    · rwa [get?_insert, if_neg (Ne.symm same)]
    · exact insert_comm old (Ne.symm same) value later

theorem Tally.Grows.swap {old mid new : Tally} (first : old.Grows a mid) (second : mid.Grows b new) :
    ∃ other, old.Grows b other ∧ Tally.Grows other a new := by
  obtain ⟨functions, early, late⟩ := Count.add_swap first.functions second.functions
  obtain ⟨documented, early', late'⟩ := Count.add_swap first.documented second.documented
  obtain ⟨languages, count, count'⟩ := Table.Grows.swap LanguageCount.Grows.swap first.languages second.languages
  obtain ⟨details, detail, detail'⟩ := Table.Grows.swap LanguageDetail.Grows.swap first.details second.details
  exact ⟨⟨functions, documented, languages, details⟩, ⟨early, early', count, detail⟩,
    ⟨late, late', count', detail'⟩⟩

theorem Tally.ofRecords_perm {tally : Tally} (perm : records.Perm others)
    (summed : Tally.ofRecords records = .ok tally) : Tally.ofRecords others = .ok tally := by
  refine Fallible.foldlM_perm (fun early late => ?_) perm summed
  obtain ⟨other, first, second⟩ := (Tally.add_ok early).swap (Tally.add_ok late)
  exact ⟨other, Tally.add_of_grows first, Tally.add_of_grows second⟩

theorem Summary.measure_perm (perm : records.Perm others)
    (summed : measure records prior verbosity report now = .ok summary) :
    measure others prior verbosity report now = .ok summary := by
  obtain ⟨tally, tallied, rest⟩ := Fallible.bind_ok summed
  have length : Count.ofLength others = Count.ofLength records := by
    rw [Count.ofLength, Count.ofLength, perm.length_eq]
  rw [measure, Tally.ofRecords_perm perm tallied, length]
  exact rest

end Waymark
