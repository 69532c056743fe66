import Waymark.Json.Reader
import Waymark.Proofs.Json.Scan
import Waymark.Proofs.Table

/-! Values that were printed are read again. A value that was read has its members in ascending order,
whatever their order was when they were written.
-/

set_option autoImplicit false

namespace Waymark.Json

open Token Reader

/-- No number but counts and floats that can be read back, and at most `depth` containers inside each
other. -/
def Plain : Nat → Json → Prop
  | depth + 1, .list items => ∀ item ∈ items, Plain depth item
  | depth + 1, .object members => ∀ member ∈ members, Plain depth member.2
  | _, .float x => ∃ whole fraction, Legible x whole fraction
  | _, .null | _, .bool _ | _, .count _ | _, .text _ => True
  | _, _ => False

theorem sizeOf_value_lt {member : String × Json} {members : List (String × Json)} (among : member ∈ members) :
    sizeOf member.2 < sizeOf (object members) := by
  have inside := List.sizeOf_lt_of_mem among
  obtain ⟨key, value⟩ := member
  simp only [Prod.mk.sizeOf_spec, object.sizeOf_spec] at inside ⊢
  omega

/-- The structure that a value has in its text. -/
def draftOf : Json → Draft
  | .list items => .list (items.map draftOf)
  | .object members => .object (members.map fun member => (some member.1, draftOf member.2))
  | json => .scalar (some json)
termination_by json => sizeOf json
decreasing_by
  · decreasing_tactic
  · exact sizeOf_value_lt (by assumption)

/-- The value with its members in ascending order; the last of equal keys stays. -/
def arranged : Json → Json
  | .list items => .list (items.map arranged)
  | .object members => .object (Table.ofList (members.map fun member => (member.1, arranged member.2))).entries
  | json => json
termination_by json => sizeOf json
decreasing_by
  · decreasing_tactic
  · exact sizeOf_value_lt (by assumption)

/-! From text to structure -/

/-- A reader that takes the tokens at the front of a text becomes another one, up to blanks. -/
inductive Feeds : Reader → List Char → Reader → List Char → Prop where
  | done {reader : Reader} {text rest : List Char}
    (same : text.dropWhile isSpace = rest.dropWhile isSpace) : Feeds reader text reader rest
  | token {reader next last : Reader} {text seen after rest : List Char} {token : Token}
    (visible : text.dropWhile isSpace = seen) (one : scanOne seen = some (token, after))
    (shorter : after.length < seen.length) (taken : reader.step token = some next)
    (later : Feeds next after last rest) : Feeds reader text last rest

namespace Feeds

variable {a b c : Reader} {text more rest gap : List Char} {token : Token}

theorem refl (a : Reader) (rest : List Char) : Feeds a rest a rest := .done rfl

theorem skip (h : Feeds a text b rest) (blank : ∀ c ∈ gap, isSpace c = true) :
    Feeds a (gap ++ text) b rest := by
  have same : (gap ++ text).dropWhile isSpace = text.dropWhile isSpace :=
    List.dropWhile_append_of_pos blank
  cases h with
  | done ends => exact .done (same.trans ends)
  | token visible one shorter taken later => exact .token (same.trans visible) one shorter taken later

theorem trans (first : Feeds a text b more) (second : Feeds b more c rest) : Feeds a text c rest := by
  induction first with
  | done same =>
    cases second with
    | done ends => exact .done (same.trans ends)
    | token visible one shorter taken later => exact .token (same.trans visible) one shorter taken later
  | token visible one shorter taken _ ih => exact .token visible one shorter taken (ih second)

theorem one {seen after : List Char} (visible : ∀ c ∈ seen.head?, isSpace c = false)
    (one : scanOne seen = some (token, after)) (shorter : after.length < seen.length)
    (taken : a.step token = some b) : Feeds a seen b after := by
  refine .token ?_ one shorter taken (.refl _ _)
  cases seen with
  | nil => rfl
  | cons c seen => rw [List.dropWhile_cons_of_neg (by simp [visible c rfl])]

theorem mark {c : Char} {after : List Char} (visible : isSpace c = false)
    (scanned : scanOne (c :: after) = some (token, after)) (taken : a.step token = some b) :
    Feeds a (c :: after) b after :=
  .one (fun d first => by cases first; exact visible) scanned (by simp) taken

theorem scanWithin_run (h : Feeds a text b rest) (ends : rest.dropWhile isSpace = []) {steps : Nat}
    (enough : text.length ≤ steps) :
    ∃ tokens, scanWithin steps text = some tokens ∧ a.run tokens = some b := by
  induction h generalizing steps with
  | done same =>
    refine ⟨[], ?_, rfl⟩
    rw [scanWithin.eq_def]
    simp only [same, ends]
  | @token reader next last text seen after rest token visible one shorter taken later ih =>
    have fewer := (List.dropWhile_suffix isSpace (l := text)).length_le
    rw [visible] at fewer
    cases seen with
    | nil => cases shorter
    | cons c seen =>
      obtain ⟨steps, rfl⟩ : ∃ n, steps = n + 1 := ⟨steps - 1, by simp at fewer; omega⟩
      have enough' : after.length ≤ steps := by
        simp only [List.length_cons] at shorter fewer
        omega
      obtain ⟨tokens, scanned, run⟩ := ih ends enough'
      refine ⟨token :: tokens, ?_, ?_⟩
      · rw [scanWithin.eq_def]
        simp only [visible, one, scanned, Option.map_some]
      · simp only [Reader.run, taken, Option.bind_some, run]

end Feeds

theorem draft?_of_feeds {text rest : List Char} {reader : Reader} {draft : Draft}
    (h : Feeds .start text reader rest) (ends : rest.dropWhile isSpace = [])
    (finished : reader.finished = some draft) : draft? text = some draft := by
  obtain ⟨tokens, scanned, run⟩ := h.scanWithin_run ends (Nat.le_refl _)
  simp only [draft?, Token.scan, scanned, run, finished, Option.bind_eq_bind, Option.bind_some]

theorem isSpace_newline (level : Nat) : ∀ c ∈ newline level, isSpace c = true := by
  intro c member
  rcases List.mem_cons.1 member with rfl | member
  · rfl
  · rw [List.eq_of_mem_replicate member]
    rfl

def Begins (awaited : Awaited) : Prop := awaited = .value ∨ awaited = .firstItem

theorem step_begins {awaited : Awaited} {frames : List Frame} {finished : Option Draft} {token : Token}
    (begins : Begins awaited) (opens : token ≠ .closeList) :
    step ⟨awaited, frames, finished⟩ token = beginValue frames token := by
  rcases begins with rfl | rfl
  · rfl
  · unfold step
    split <;> simp_all

/-- Wherever a value comes the reader takes this one from its text. -/
def Reads (json : Json) : Prop :=
  ∀ (awaited : Awaited) (level : Nat) (frames : List Frame) (next : Reader) (rest : List Char),
    Begins awaited → Stops rest → deliver (draftOf json) frames = some next →
    Feeds ⟨awaited, frames, none⟩ (prettyAt level json ++ rest) next rest

section
variable {awaited : Awaited} {frames : List Frame} {next : Reader} {rest : List Char} {level outer : Nat}

theorem draftOf_list (items : List Json) : draftOf (.list items) = .list (items.map draftOf) := by
  rw [draftOf]

theorem draftOf_object (members : List (String × Json)) : draftOf (.object members) =
    .object (members.map fun member => (some member.1, draftOf member.2)) := by
  rw [draftOf]

theorem draftOf_scalar {json : Json} (noList : ∀ items, json ≠ .list items)
    (noObject : ∀ members, json ≠ .object members) : draftOf json = .scalar (some json) := by
  rw [draftOf]
  · exact noList
  · exact noObject

theorem reads_token {json : Json} {token : Token} {printed : List Char}
    (same : ∀ level, prettyAt level json = printed) (some : printed ≠ [])
    (visible : ∀ c ∈ printed.head?, isSpace c = false) (opens : token ≠ .closeList)
    (begins : ∀ frames, beginValue frames token = deliver (draftOf json) frames)
    (scanned : ∀ rest, Stops rest → scanOne (printed ++ rest) = .some (token, rest)) : Reads json := by
  intro awaited level frames next rest waits stops delivered
  rw [same]
  refine .one ?_ (scanned rest stops) ?_ ?_
  · cases printed with
    | nil => exact absurd rfl some
    | cons c printed => exact visible
  · have := List.length_pos_iff.2 some
    simp only [List.length_append]
    omega
  · rw [step_begins waits opens, begins, delivered]

theorem reads_null : Reads .null := by
  refine reads_token (fun _ => prettyAt.eq_1 _) (by simp) ?_ (by simp) (fun frames => ?_) fun rest _ => rfl
  · intro c first
    cases first
    rfl
  · rw [draftOf_scalar (by simp) (by simp)]
    rfl

theorem reads_bool (value : Bool) : Reads (.bool value) := by
  have begins : ∀ frames, beginValue frames (.scalar (some (.bool value))) =
      deliver (draftOf (.bool value)) frames := by
    intro frames
    rw [draftOf_scalar (by simp) (by simp)]
    rfl
  cases value with
  | false =>
    refine reads_token (fun _ => by rw [prettyAt]) (by simp) ?_ (by simp) begins fun rest _ => rfl
    intro c first
    cases first
    rfl
  | true =>
    refine reads_token (fun _ => by rw [prettyAt]) (by simp) ?_ (by simp) begins fun rest _ => rfl
    intro c first
    cases first
    rfl

theorem not_isSpace_of_isDigit {c : Char} (digit : c.isDigit = true) : isSpace c = false := by
  simp only [isSpace, Bool.or_eq_false_iff, decide_eq_false_iff_not]
  refine ⟨⟨⟨?_, ?_⟩, ?_⟩, ?_⟩ <;> (rintro rfl; cases digit)

theorem reads_count (n : Count) : Reads (.count n) := by
  have some : n.text ≠ [] := Text.Decimal.write_ne_nil _
  refine reads_token (fun _ => by rw [prettyAt]) some ?_ (by simp) (fun frames => ?_)
    fun rest stops => scanOne_count n stops
  · intro c first
    exact not_isSpace_of_isDigit (Text.Decimal.isDigit_of_mem_write (List.mem_of_mem_head? first))
  · rw [draftOf_scalar (by simp) (by simp)]
    rfl

theorem reads_float {x : Float} {whole : Nat} {fraction : List Char} (legible : Legible x whole fraction) :
    Reads (.float x) := by
  have first : ∀ c ∈ (floatText x).head?, c.isDigit = true := by
    intro c first
    cases digits : Text.Decimal.write whole with
    | nil => exact absurd digits (Text.Decimal.write_ne_nil whole)
    | cons d more =>
      rw [legible.text, digits] at first
      cases first
      exact Text.Decimal.isDigit_of_mem_write (digits ▸ List.mem_cons_self)
  refine reads_token (fun _ => by rw [prettyAt]) (by simp [legible.text]) ?_ (by simp) (fun frames => ?_)
    fun rest stops => scanOne_float legible stops
  · intro c member
    exact not_isSpace_of_isDigit (first c member)
  · rw [draftOf_scalar (by simp) (by simp)]
    rfl

theorem reads_text (text : String) : Reads (.text text) := by
  refine reads_token (fun _ => by rw [prettyAt]) (by simp [quoted]) ?_ (by simp) (fun frames => ?_)
    fun rest _ => scanOne_quoted text rest
  · intro c first
    cases first
    rfl
  · rw [draftOf_scalar (by simp) (by simp)]
    rfl

theorem stops_items (level outer : Nat) (items : List Json) (rest : List Char) :
    Stops (prettyItems level items ++ (newline outer ++ rest)) := by
  cases items with
  | nil => exact stops_newline outer rest
  | cons item items =>
    rw [prettyItems, List.cons_append]
    exact stops_comma _

theorem stops_members (level outer : Nat) (members : List (String × Json)) (rest : List Char) :
    Stops (prettyMembers level members ++ (newline outer ++ rest)) := by
  cases members with
  | nil => exact stops_newline outer rest
  | cons member members =>
    rw [prettyMembers, List.cons_append]
    exact stops_comma _

theorem feeds_items (level outer : Nat) (rest : List Char) {items : List Json} (reads : ∀ item ∈ items, Reads item) (done : List Draft)
    (delivered : deliver (.list (done.reverse ++ items.map draftOf)) frames = some next) :
    Feeds ⟨.separator, .list done :: frames, none⟩
      (prettyItems level items ++ (newline outer ++ ']' :: rest)) next rest := by
  induction items generalizing done with
  | nil =>
    rw [List.map_nil, List.append_nil] at delivered
    have closed : step ⟨.separator, .list done :: frames, none⟩ .closeList = some next := delivered
    rw [prettyItems, List.nil_append]
    exact (Feeds.mark rfl rfl closed).skip (isSpace_newline outer)
  | cons item items ih =>
    have first := reads item List.mem_cons_self .value level (.list done :: frames)
      ⟨.separator, .list (draftOf item :: done) :: frames, none⟩
      (prettyItems level items ++ (newline outer ++ ']' :: rest)) (.inl rfl)
      (stops_items level outer items _) rfl
    have others := ih (fun item member => reads item (List.mem_cons_of_mem _ member)) (draftOf item :: done)
      (by simpa using delivered)
    rw [prettyItems]
    simp only [List.cons_append, List.append_assoc]
    refine .trans (.mark rfl rfl rfl) ?_
    exact (first.trans others).skip (isSpace_newline level)

theorem reads_list {items : List Json} (reads : ∀ item ∈ items, Reads item) : Reads (.list items) := by
  intro awaited level frames next rest begins stops delivered
  rw [draftOf_list] at delivered
  have opened : step ⟨awaited, frames, none⟩ .openList = some ⟨.firstItem, .list [] :: frames, none⟩ := by
    rw [step_begins begins (by simp)]
    rfl
  cases items with
  | nil =>
    rw [prettyAt]
    exact .trans (.mark rfl rfl opened) (.mark rfl rfl delivered)
  | cons item items =>
    have first := reads item List.mem_cons_self .firstItem (level + 1) (.list [] :: frames)
      ⟨.separator, .list [draftOf item] :: frames, none⟩
      (prettyItems (level + 1) items ++ (newline level ++ ']' :: rest)) (.inr rfl)
      (stops_items (level + 1) level items _) rfl
    have others := feeds_items (level + 1) level rest
      (fun item member => reads item (List.mem_cons_of_mem _ member)) [draftOf item] delivered
    rw [prettyAt]
    simp only [List.cons_append, List.append_assoc, List.nil_append]
    refine .trans (.mark rfl rfl opened) ?_
    exact (first.trans others).skip (isSpace_newline (level + 1))

theorem feeds_member (level : Nat) (frames : List Frame) {value : Json} (reads : Reads value)
    (key : String) (done : List (Option String × Draft)) (waits : awaited = .firstKey ∨ awaited = .key)
    (stops : Stops rest) : Feeds ⟨awaited, .object done :: frames, none⟩
      (quoted key ++ ':' :: ' ' :: (prettyAt level value ++ rest))
      ⟨.separator, .object ((some key, draftOf value) :: done) :: frames, none⟩ rest := by
  have keyed : step ⟨awaited, .object done :: frames, none⟩ (.text (some key)) =
      some ⟨.colon, .member done (some key) :: frames, none⟩ := by
    rcases waits with rfl | rfl <;> rfl
  refine .trans (.one (fun c first => ?_) (scanOne_quoted key _) ?_ keyed) ?_
  · cases first
    rfl
  · simp only [quoted, List.cons_append, List.append_assoc, List.length_cons, List.length_append]
    omega
  refine .trans (.mark rfl rfl rfl) ?_
  have taken := reads .value level (.member done (some key) :: frames) _ rest (.inl rfl) stops rfl
  have blank : ∀ c ∈ [' '], isSpace c = true := by simp [isSpace]
  exact taken.skip blank

theorem feeds_members (level outer : Nat) (rest : List Char) {members : List (String × Json)}
    (reads : ∀ member ∈ members, Reads member.2) (done : List (Option String × Draft))
    (delivered : deliver (.object (done.reverse ++
      members.map fun member => (some member.1, draftOf member.2))) frames = some next) :
    Feeds ⟨.separator, .object done :: frames, none⟩
      (prettyMembers level members ++ (newline outer ++ '}' :: rest)) next rest := by
  induction members generalizing done with
  | nil =>
    rw [List.map_nil, List.append_nil] at delivered
    have closed : step ⟨.separator, .object done :: frames, none⟩ .closeObject = some next := delivered
    rw [prettyMembers, List.nil_append]
    exact (Feeds.mark rfl rfl closed).skip (isSpace_newline outer)
  | cons member members ih =>
    obtain ⟨key, value⟩ := member
    have first := feeds_member level frames (reads (key, value) List.mem_cons_self) key done
      (.inr rfl) (stops_members level outer members ('}' :: rest))
    have others := ih (fun member among => reads member (List.mem_cons_of_mem _ among))
      ((some key, draftOf value) :: done) (by simpa using delivered)
    rw [prettyMembers]
    simp only [List.cons_append, List.append_assoc]
    refine .trans (.mark rfl rfl rfl) ?_
    exact (first.trans others).skip (isSpace_newline level)

theorem reads_object {members : List (String × Json)} (reads : ∀ member ∈ members, Reads member.2) :
    Reads (.object members) := by
  intro awaited level frames next rest begins stops delivered
  rw [draftOf_object] at delivered
  have opened : step ⟨awaited, frames, none⟩ .openObject = some ⟨.firstKey, .object [] :: frames, none⟩ := by
    rw [step_begins begins (by simp)]
    rfl
  cases members with
  | nil =>
    rw [prettyAt]
    exact .trans (.mark rfl rfl opened) (.mark rfl rfl delivered)
  | cons member members =>
    obtain ⟨key, value⟩ := member
    have first := feeds_member (level + 1) frames (reads (key, value) List.mem_cons_self) key [] (.inl rfl)
      (stops_members (level + 1) level members ('}' :: rest))
    have others := feeds_members (level + 1) level rest
      (fun member among => reads member (List.mem_cons_of_mem _ among)) [(some key, draftOf value)] delivered
    rw [prettyAt]
    simp only [List.cons_append, List.append_assoc, List.nil_append]
    refine .trans (.mark rfl rfl opened) ?_
    exact (first.trans others).skip (isSpace_newline (level + 1))

end

theorem reads_of_plain {depth : Nat} {json : Json} (plain : Plain depth json) : Reads json := by
  -- On the last level there are no containers, so the readers of their parts are never asked.
  induction depth generalizing json with
  | zero =>
    cases json with
    | null => exact reads_null
    | bool value => exact reads_bool value
    | count n => exact reads_count n
    | text s => exact reads_text s
    | float x =>
      obtain ⟨whole, fraction, legible⟩ := plain
      exact reads_float legible
    | negative | list | object => cases plain
  | succ depth ih =>
    cases json with
    | null => exact reads_null
    | bool value => exact reads_bool value
    | count n => exact reads_count n
    | text s => exact reads_text s
    | float x =>
      obtain ⟨whole, fraction, legible⟩ := plain
      exact reads_float legible
    | negative => cases plain
    | list items => exact reads_list fun item member => ih (plain item member)
    | object members => exact reads_object fun member among => ih (plain member among)

theorem draft?_pretty {depth : Nat} {json : Json} (plain : Plain depth json) :
    draft? json.pretty = some (draftOf json) := by
  have fed := reads_of_plain plain .value 0 [] ⟨.nothing, [], some (draftOf json)⟩ [] (.inl rfl) stops_nil rfl
  rw [List.append_nil] at fed
  exact draft?_of_feeds fed rfl rfl

/-! From structure to value -/

theorem memberValues?_draftOf {depth : Nat} {members : List (String × Json)} (read : Table Json)
    (values : ∀ member ∈ members, (draftOf member.2).value? depth = some member.2.arranged) :
    memberValues? depth read.entries (members.map fun member => (some member.1, draftOf member.2)) =
      some (read.insertAll (members.map fun member => (member.1, member.2.arranged))).entries := by
  induction members generalizing read with
  | nil => rw [List.map_nil, memberValues?]; rfl
  | cons member members ih =>
    have first := values member List.mem_cons_self
    rw [List.map_cons, memberValues?, first]
    exact ih (read.insert member.1 member.2.arranged)
      fun member among => values member (List.mem_cons_of_mem _ among)

theorem itemValues?_draftOf {depth : Nat} {items : List Json}
    (values : ∀ item ∈ items, (draftOf item).value? depth = some item.arranged) :
    itemValues? depth (items.map draftOf) = some (items.map arranged) := by
  induction items with
  | nil => rw [List.map_nil, itemValues?]; rfl
  | cons item items ih =>
    have others := ih fun item member => values item (List.mem_cons_of_mem _ member)
    rw [List.map_cons, itemValues?, values item List.mem_cons_self, others]
    rfl

theorem arranged_list (items : List Json) : arranged (.list items) = .list (items.map arranged) := by
  rw [arranged]

theorem arranged_object (members : List (String × Json)) : arranged (.object members) =
    .object (Table.ofList (members.map fun member => (member.1, member.2.arranged))).entries := by
  rw [arranged]

theorem arranged_scalar {json : Json} (noList : ∀ items, json ≠ .list items)
    (noObject : ∀ members, json ≠ .object members) : json.arranged = json := by
  rw [arranged]
  · exact noList
  · exact noObject

theorem value?_draftOf {depth : Nat} {json : Json} (plain : Plain depth json) :
    (draftOf json).value? depth = some json.arranged := by
  have scalar : ∀ json : Json, (∀ items, json ≠ .list items) → (∀ members, json ≠ .object members) →
      ∀ depth, (draftOf json).value? depth = some json.arranged := by
    intro json noList noObject depth
    rw [draftOf_scalar noList noObject, arranged_scalar noList noObject, Draft.value?]
  induction depth generalizing json with
  | zero =>
    cases json with
    | null | bool | count | float | text => exact scalar _ (by simp) (by simp) 0
    | negative | list | object => cases plain
  | succ depth ih =>
    cases json with
    | null | bool | count | float | text => exact scalar _ (by simp) (by simp) (depth + 1)
    | negative => cases plain
    | list items =>
      rw [draftOf_list, arranged_list, Draft.value?, itemValues?_draftOf fun item member => ih (plain item member)]
      rfl
    | object members =>
      have read := memberValues?_draftOf .empty fun member among => ih (plain member among)
      rw [draftOf_object, arranged_object, Draft.value?]
      exact congrArg (Option.map object) read

/-- A value that was printed reads as the same value with its members in ascending order. -/
theorem read?_pretty {json : Json} (plain : Plain maxDepth json) : read? json.pretty = some json.arranged := by
  rw [read?, draft?_pretty plain]
  exact value?_draftOf plain

end Waymark.Json
