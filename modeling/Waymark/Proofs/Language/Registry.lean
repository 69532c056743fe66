import Mathlib.Data.List.Induction
import Waymark.Language.Registry
import Waymark.Proofs.Fallible
import Waymark.Proofs.Language.Builtin
import Waymark.Proofs.Pattern.Ascii

/-! The registry after any calls. No place under an extension lies outside of the languages, so an extension leads to
the language of the last call that succeeded and lists it, and a call that fails is as if it had not been made.
-/

set_option autoImplicit false

namespace Waymark.LanguageRegistry

open Languages (key)

variable {ε : Type} {compile : String → Except ε Pattern} {registry next start : LanguageRegistry}
  {source : LanguageSource} {language : Language} {error : ε} {extension : String} {extensions : List String}

/-! What a call does -/

def add (registry : LanguageRegistry) (extensions : List String) (language : Language) : LanguageRegistry where
  languages := registry.languages.push language
  byExtension := extensions.foldl (fun places extension => places.insert (key extension) registry.languages.size)
    registry.byExtension

theorem forM_insert (place : Nat) (registry : LanguageRegistry) (extensions : List String) :
    (extensions.forM fun extension => modify fun registry =>
        { registry with byExtension := registry.byExtension.insert (key extension) place } : Registering ε Unit)
        registry =
      (.ok (), { registry with
        byExtension := extensions.foldl (fun places extension => places.insert (key extension) place)
          registry.byExtension }) := by
  induction extensions generalizing registry with
  | nil => rfl
  | cons extension rest ih => exact ih _

theorem register_of_ok (compiled : compileLanguage compile source = .ok language) (registry : LanguageRegistry) :
    register compile source registry = (.ok (), registry.add source.extensions language) := by
  unfold register
  rw [compiled]
  exact forM_insert registry.languages.size _ source.extensions

theorem register_of_error (refused : compileLanguage compile source = .error error) (registry : LanguageRegistry) :
    register compile source registry = (.error error, registry) := by
  unfold register
  rw [refused]
  rfl

theorem getElem?_places (places : Std.HashMap String Nat) (place : Nat) (extensions : List String) (name : String) :
    (extensions.foldl (fun places extension => places.insert (key extension) place) places)[name]? =
      if name ∈ extensions.map key then some place else places[name]? := by
  induction extensions generalizing places with
  | nil => rfl
  | cons first rest ih =>
    rw [List.foldl_cons, ih, Std.HashMap.getElem?_insert, List.map_cons]
    by_cases later : name ∈ rest.map key
    · rw [if_pos later, if_pos (List.mem_cons_of_mem _ later)]
    · rw [if_neg later]
      by_cases here : key first = name
      · rw [if_pos (beq_iff_eq.2 here), if_pos (here ▸ List.mem_cons_self)]
      · rw [if_neg (by simpa using here), if_neg (by simp [later, Ne.symm here])]

def Sound (registry : LanguageRegistry) : Prop :=
  ∀ (name : String) (place : Nat), registry.byExtension[name]? = some place → place < registry.languages.size

theorem sound_empty : Sound empty := by
  intro name place found
  cases (Std.HashMap.getElem?_empty (a := name)).symm.trans found

namespace Sound

theorem add (sound : registry.Sound) (extensions : List String) (language : Language) :
    (registry.add extensions language).Sound := by
  intro name place found
  rw [LanguageRegistry.add, Array.size_push]
  rw [LanguageRegistry.add, getElem?_places] at found
  split at found
  · cases found
    exact Nat.lt_succ_self _
  · exact Nat.lt_succ_of_lt (sound name place found)

theorem find?_add (sound : registry.Sound) (extensions : List String) (language : Language) (extension : String) :
    (registry.add extensions language).find? extension =
      if key extension ∈ extensions.map key then some language else registry.find? extension := by
  simp only [find?, LanguageRegistry.add, getElem?_places]
  split
  · exact Array.getElem?_push_size
  · cases found : registry.byExtension[key extension]? with
    | none => rfl
    | some place =>
      -- An old place still leads to the same language, as languages are only added behind it.
      have inside := sound _ _ found
      exact (Array.getElem?_push_lt inside).trans (Array.getElem?_eq_getElem inside).symm

theorem isRegistered_eq (sound : registry.Sound) (extension : String) :
    registry.isRegistered extension = (registry.find? extension).isSome := by
  rw [isRegistered, find?, Std.HashMap.contains_eq_isSome_getElem?]
  cases found : registry.byExtension[key extension]? with
  | none => rfl
  | some place => simp [sound _ _ found]

end Sound

/-! Extensions -/

theorem mem_extensions {name : String} : name ∈ registry.extensions ↔ name ∈ registry.byExtension := by
  rw [LanguageRegistry.extensions, List.mem_mergeSort, Std.HashMap.mem_keys]

theorem extensions_ascending (registry : LanguageRegistry) : registry.extensions.Pairwise (· < ·) := by
  have sorted : registry.extensions.Pairwise (· ≤ ·) := by
    refine (List.pairwise_mergeSort ?_ ?_ registry.byExtension.keys).imp of_decide_eq_true
    · exact fun a b c first second => decide_eq_true
        (String.le_trans (of_decide_eq_true first) (of_decide_eq_true second))
    · intro a b
      rw [Bool.or_eq_true, decide_eq_true_eq, decide_eq_true_eq]
      exact String.le_total a b
  have distinct : registry.extensions.Nodup :=
    (List.mergeSort_perm ..).nodup_iff.2 (Std.HashMap.nodup_keys)
  exact (sorted.and distinct).imp fun order => Std.lt_of_le_of_ne order.1 order.2

theorem mem_add {name : String} : name ∈ (registry.add extensions language).byExtension ↔
    name ∈ extensions.map key ∨ name ∈ registry.byExtension := by
  rw [Std.HashMap.mem_iff_isSome_getElem?, Std.HashMap.mem_iff_isSome_getElem?, add, getElem?_places]
  by_cases listed : name ∈ extensions.map key
  · simp [listed]
  · simp [listed]

theorem covers_iff : source.covers extension = true ↔ key extension ∈ source.extensions.map key := List.contains_iff_mem

/-! Calls -/

structure Call (ε : Type) where
  source : LanguageSource
  result : Except ε Unit

namespace Call

def succeeded (call : Call ε) : Bool := call.result.isOk

/-- Whether a call succeeded and lists an extension, up to the case of its letters. -/
def provides (call : Call ε) (extension : String) : Bool := call.succeeded && call.source.covers extension

@[simp] theorem succeeded_ok : (⟨source, .ok ()⟩ : Call ε).succeeded = true := rfl

@[simp] theorem succeeded_error : (⟨source, .error error⟩ : Call ε).succeeded = false := rfl

@[simp] theorem provides_ok : (⟨source, .ok ()⟩ : Call ε).provides extension = source.covers extension := rfl

@[simp] theorem provides_error : (⟨source, .error error⟩ : Call ε).provides extension = false := rfl

end Call

inductive Course (compile : String → Except ε Pattern) :
    LanguageRegistry → List (Call ε) → LanguageRegistry → Prop where
  | done {registry : LanguageRegistry} : Course compile registry [] registry
  | call {registry next last : LanguageRegistry} {source : LanguageSource} {result : Except ε Unit}
      {calls : List (Call ε)} : register compile source registry = (result, next) →
      Course compile next calls last → Course compile registry (⟨source, result⟩ :: calls) last

/-- The language that an extension leads to after some calls: that of the last one that provides it. -/
def lastProvided? (compile : String → Except ε Pattern) (calls : List (Call ε)) (extension : String) :
    Option Language :=
  (calls.filter (·.provides extension)).getLast?.bind fun call => (compileLanguage compile call.source).toOption

theorem lastProvided?_eq_none_iff {calls : List (Call ε)}
    (results : ∀ call ∈ calls, call.succeeded = (compileLanguage compile call.source).isOk) :
    lastProvided? compile calls extension = none ↔ ∀ call ∈ calls, call.provides extension = false := by
  rw [lastProvided?, Option.bind_eq_none_iff]
  constructor
  · intro nothing call among
    cases provides : call.provides extension with
    | false => rfl
    | true =>
      -- The last call that provides the extension succeeded, so its language compiled.
      have listed : calls.filter (·.provides extension) ≠ [] :=
        List.ne_nil_of_mem (List.mem_filter.2 ⟨among, provides⟩)
      obtain ⟨last, found⟩ := Option.isSome_iff_exists.1 (List.getLast?_isSome.2 listed)
      have last_mem := List.mem_filter.1 (List.mem_of_getLast? found)
      have compiled := results last last_mem.1
      rw [(Bool.and_eq_true_iff.1 last_mem.2).1] at compiled
      obtain ⟨language, same⟩ := Fallible.exists_of_isOk compiled.symm
      have refused := nothing last found
      rw [same] at refused
      cases refused
  · intro unprovided call found
    have listed := List.mem_filter.1 (List.mem_of_getLast? found)
    rw [unprovided call listed.1] at listed
    cases listed.2

/-- What a registry is after calls from an empty one. -/
structure Reflects (compile : String → Except ε Pattern) (calls : List (Call ε)) (registry : LanguageRegistry) :
    Prop where
  sound : registry.Sound
  find? (extension : String) : registry.find? extension = lastProvided? compile calls extension
  extensions (name : String) : name ∈ registry.byExtension ↔
    ∃ call ∈ calls, call.succeeded = true ∧ name ∈ call.source.extensions.map key
  results : ∀ call ∈ calls, call.succeeded = (compileLanguage compile call.source).isOk

variable {calls more earlier : List (Call ε)} {result : Except ε Unit} {last : LanguageRegistry}

theorem reflects_empty : Reflects compile [] empty where
  sound := sound_empty
  find? _ := by
    rw [LanguageRegistry.find?, empty, Std.HashMap.getElem?_empty]
    rfl
  extensions name := by simp [empty]
  results := by simp

theorem lastProvided?_append_of_false {call : Call ε} (provides : call.provides extension = false) :
    lastProvided? compile (calls ++ [call]) extension = lastProvided? compile calls extension := by
  simp [lastProvided?, provides]

theorem lastProvided?_append_of_true {call : Call ε} (provides : call.provides extension = true) :
    lastProvided? compile (calls ++ [call]) extension = (compileLanguage compile call.source).toOption := by
  simp [lastProvided?, provides]

theorem Reflects.call (reflects : Reflects compile calls registry)
    (called : register compile source registry = (result, next)) :
    Reflects compile (calls ++ [⟨source, result⟩]) next := by
  -- A source that does not compile is refused before anything is registered.
  cases compiled : compileLanguage compile source with
  | error error =>
    cases (register_of_error compiled registry).symm.trans called
    refine ⟨reflects.sound, fun extension => ?_, fun name => ?_, fun call among => ?_⟩
    · rw [reflects.find?, lastProvided?_append_of_false Call.provides_error]
    · rw [reflects.extensions]
      simp [or_and_right, exists_or]
    · rcases List.mem_append.1 among with old | new
      · exact reflects.results call old
      · rw [List.mem_singleton.1 new, compiled]
        rfl
  | ok language =>
    cases (register_of_ok compiled registry).symm.trans called
    refine ⟨reflects.sound.add _ _, fun extension => ?_, fun name => ?_, fun call among => ?_⟩
    · rw [reflects.sound.find?_add]
      cases covered : source.covers extension with
      | true =>
        rw [if_pos (covers_iff.1 covered), lastProvided?_append_of_true (Call.provides_ok.trans covered), compiled]
        rfl
      | false =>
        rw [if_neg fun listed => Bool.eq_false_iff.1 covered (covers_iff.2 listed),
          lastProvided?_append_of_false (Call.provides_ok.trans covered), reflects.find?]
    · rw [mem_add, reflects.extensions]
      simp [or_and_right, exists_or, or_comm]
    · rcases List.mem_append.1 among with old | new
      · exact reflects.results call old
      · rw [List.mem_singleton.1 new, compiled]
        rfl

namespace Course

theorem reflects (course : Course compile start calls registry) (earlier : List (Call ε))
    (before : Reflects compile earlier start) : Reflects compile (earlier ++ calls) registry := by
  induction course generalizing earlier with
  | done => rwa [List.append_nil]
  | call called _ ih => simpa using ih _ (before.call called)

theorem without {before after : List (Call ε)} {failed : Call ε}
    (course : Course compile start (before ++ failed :: after) registry) (failure : failed.succeeded = false) :
    Course compile start (before ++ after) registry := by
  induction before generalizing start with
  | nil =>
    cases course with
    | call called later =>
      rename_i middle source result
      -- Patterns are compiled before anything is added, so the calls behind start from the same registry.
      cases compiled : compileLanguage compile source with
      | error error =>
        cases (register_of_error compiled start).symm.trans called
        exact later
      | ok language =>
        cases (register_of_ok compiled start).symm.trans called
        cases failure
  | cons call before ih =>
    cases course with
    | call called later => exact .call called (ih later)

end Course

/-! The registry to begin with -/

theorem forM_cons (source : LanguageSource) (rest : List LanguageSource) (registry : LanguageRegistry) :
    ((source :: rest).forM (register compile) : Registering ε Unit) registry =
      match register compile source registry with
      | (.ok (), next) => (rest.forM (register compile) : Registering ε Unit) next
      | (.error error, next) => (.error error, next) := by
  change ExceptT.bindCont (fun _ => (rest.forM (register compile) : Registering ε Unit))
    (register compile source registry).1 (register compile source registry).2 = _
  obtain ⟨result, next⟩ := register compile source registry
  cases result <;> rfl

theorem course_of_forM {sources : List LanguageSource}
    (registered : (sources.forM (register compile) : Registering ε Unit) start = (.ok (), registry)) :
    Course compile start (sources.map (⟨·, .ok ()⟩)) registry := by
  induction sources generalizing start with
  | nil =>
    cases registered
    exact .done
  | cons source rest ih =>
    rw [forM_cons] at registered
    split at registered
    · rename_i next called
      exact .call called (ih registered)
    · cases registered

theorem exists_forM {sources : List LanguageSource}
    (compiled : ∀ source ∈ sources, ∃ language, compileLanguage compile source = .ok language)
    (start : LanguageRegistry) :
    ∃ registry, (sources.forM (register compile) : Registering ε Unit) start = (.ok (), registry) := by
  induction sources generalizing start with
  | nil => exact ⟨start, rfl⟩
  | cons source rest ih =>
    obtain ⟨⟨language, first⟩, others⟩ := List.forall_mem_cons.1 compiled
    rw [forM_cons, register_of_ok first]
    exact ih others _

/-- A registry to begin with, and the calls that make it. -/
inductive Starts (compile : String → Except ε Pattern) : LanguageRegistry → List (Call ε) → Prop where
  | empty : Starts compile empty []
  | builtin {registry : LanguageRegistry} : builtin compile = .ok registry →
      Starts compile registry (Language.sources.map (⟨·, .ok ()⟩))

theorem Starts.course (starts : Starts compile start earlier) : Course compile LanguageRegistry.empty earlier start := by
  cases starts with
  | empty => exact .done
  | builtin made =>
    unfold LanguageRegistry.builtin at made
    split at made
    · rename_i registry registered
      cases made
      exact course_of_forM registered
    · cases made

theorem Starts.reflects (starts : Starts compile start earlier) (course : Course compile start calls registry) :
    Reflects compile (earlier ++ calls) registry :=
  course.reflects earlier (starts.course.reflects [] reflects_empty)

theorem exists_builtin
    (compiled : ∀ source ∈ Language.sources, ∃ language, compileLanguage compile source = .ok language) :
    ∃ registry, builtin compile = .ok registry := by
  obtain ⟨registry, registered⟩ := exists_forM compiled empty
  rw [builtin, registered]
  exact ⟨registry, rfl⟩

/-- After any calls to an empty registry or to that of the known languages an extension leads to the language of the
last call that succeeded and lists it, whatever the case of its letters; it is registered exactly if it leads to a
language; the extensions are those of the calls that succeeded, in ascending order; and what is reached with a call that
fails is reached without it, with the same results of all others. -/
theorem lookups_after (starts : Starts compile start earlier) (course : Course compile start calls registry) :
    (∀ extension, registry.find? extension = lastProvided? compile (earlier ++ calls) extension) ∧
      (∀ extension, registry.find? extension = none ↔ ∀ call ∈ earlier ++ calls, call.provides extension = false) ∧
      (∀ extension, registry.isRegistered extension = (registry.find? extension).isSome) ∧
      registry.extensions.Pairwise (· < ·) ∧
      (∀ name, name ∈ registry.extensions ↔
        ∃ call ∈ earlier ++ calls, call.succeeded = true ∧ name ∈ call.source.extensions.map key) ∧
      (∀ call ∈ earlier ++ calls, call.succeeded = (compileLanguage compile call.source).isOk) ∧
      ∀ before failed after, calls = before ++ failed :: after → failed.succeeded = false →
        Course compile start (before ++ after) registry := by
  have reflects := starts.reflects course
  refine ⟨reflects.find?, ?_, reflects.sound.isRegistered_eq, extensions_ascending registry, fun name => ?_,
    reflects.results, ?_⟩
  · intro extension
    rw [reflects.find?]
    exact lastProvided?_eq_none_iff reflects.results
  · rw [mem_extensions]
    exact reflects.extensions name
  · rintro before failed after rfl failure
    exact course.without failure

/-! Patterns as they are read here -/

def readPattern (text : String) : Except String Pattern := (Pattern.read? text).elim (.error text) .ok

theorem toOption_compileRule (source : RuleSource) :
    (compileRule readPattern source).toOption = DeclarationRule.of? source := by
  unfold compileRule readPattern DeclarationRule.of?
  cases Pattern.read? source.pattern <;> rfl

theorem toOption_mapM (sources : List RuleSource) :
    (sources.mapM (compileRule readPattern)).toOption = sources.mapM DeclarationRule.of? := by
  induction sources with
  | nil => rfl
  | cons source rest ih =>
    rw [List.mapM_cons, List.mapM_cons, ← ih, ← toOption_compileRule]
    cases compileRule readPattern source with
    | error => rfl
    | ok rule => cases rest.mapM (compileRule readPattern) <;> rfl

theorem toOption_compileLanguage (source : LanguageSource) :
    (compileLanguage readPattern source).toOption = Language.of? source := by
  unfold compileLanguage Language.of?
  rw [← toOption_mapM]
  cases source.rules.mapM (compileRule readPattern) with
  | error => rfl
  | ok rules =>
    change _ = (Pattern.read? source.marker).bind _
    unfold readPattern
    cases Pattern.read? source.marker <;> rfl

/-! The known languages -/

theorem readPattern_of_reads {text : String} (readable : Pattern.reads text = true) :
    ∃ pattern, readPattern text = .ok pattern := by
  obtain ⟨pattern, same⟩ := Pattern.read?_of_reads readable
  exact ⟨pattern, by rw [readPattern, same, Option.elim_some]⟩

theorem mapM_of_reads {sources : List RuleSource} (rules : ∀ rule ∈ sources, Pattern.reads rule.pattern = true) :
    ∃ found, sources.mapM (compileRule readPattern) = .ok found := by
  induction sources with
  | nil => exact ⟨[], rfl⟩
  | cons rule rest ih =>
    obtain ⟨first, others⟩ := List.forall_mem_cons.1 rules
    obtain ⟨pattern, read⟩ := readPattern_of_reads first
    obtain ⟨found, same⟩ := ih others
    refine ⟨⟨rule.kind, pattern, rule.reserved⟩ :: found, ?_⟩
    rw [List.mapM_cons, compileRule, read, same]
    rfl

theorem compileLanguage_of_reads (rules : ∀ rule ∈ source.rules, Pattern.reads rule.pattern = true)
    (marker : Pattern.reads source.marker = true) : ∃ language, compileLanguage readPattern source = .ok language := by
  obtain ⟨found, same⟩ := mapM_of_reads rules
  obtain ⟨pattern, read⟩ := readPattern_of_reads marker
  refine ⟨⟨source.name, found, pattern, source.window⟩, ?_⟩
  rw [compileLanguage, same, read]
  rfl

theorem reads_sources :
    (Language.sources.all fun source =>
      Pattern.reads source.marker && source.rules.all (Pattern.reads ·.pattern)) = true := by
  decide +kernel

theorem exists_builtin_readPattern : ∃ registry, builtin readPattern = .ok registry := by
  refine exists_builtin fun source among => ?_
  obtain ⟨marker, rules⟩ := Bool.and_eq_true_iff.1 (List.all_eq_true.1 reads_sources source among)
  exact compileLanguage_of_reads (List.all_eq_true.1 rules) marker

theorem lastProvided?_eq_find? {calls : List (Call String)}
    (results : ∀ call ∈ calls, call.succeeded = (compileLanguage readPattern call.source).isOk) (extension : String) :
    lastProvided? readPattern calls extension =
      (Languages.none.registerAll (calls.map (·.source))).find? extension := by
  -- From the end: the last call decides, and else those before it.
  induction calls using List.reverseRecOn with
  | nil => rfl
  | append_singleton calls call ih =>
    have before := ih fun earlier among => results earlier (List.mem_append_left _ among)
    have result := results call (by simp)
    rw [List.map_append, List.map_singleton, Languages.registerAll, List.foldl_append, List.foldl_cons, List.foldl_nil,
      ← Languages.registerAll, Languages.find?_register, ← before, ← toOption_compileLanguage]
    cases provides : call.provides extension with
    | true =>
      rw [lastProvided?_append_of_true provides]
      obtain ⟨succeeded, covered⟩ := Bool.and_eq_true_iff.1 provides
      obtain ⟨language, compiled⟩ := Fallible.exists_of_isOk (result.symm.trans succeeded)
      rw [if_pos covered, compiled]
      rfl
    | false =>
      rw [lastProvided?_append_of_false provides]
      cases covered : call.source.covers extension with
      | false => simp
      | true =>
        cases compiled : compileLanguage readPattern call.source with
        | error error => rfl
        | ok language =>
          rw [compiled] at result
          simp [Call.provides, result, covered, Except.isOk, Except.toBool] at provides

theorem find?_languages {earlier calls : List (Call String)} (starts : Starts readPattern start earlier)
    (course : Course readPattern start calls registry) (extension : String) :
    registry.find? extension =
      (Languages.none.registerAll ((earlier ++ calls).map (·.source))).find? extension := by
  have reflects := starts.reflects course
  rw [reflects.find?, lastProvided?_eq_find? reflects.results]

/-- So the languages that a scan works with are those of the registry to begin with. -/
theorem find?_builtin (made : builtin readPattern = .ok registry) (extension : String) :
    registry.find? extension = Languages.builtin.find? extension := by
  have same : (Language.sources.map fun source => (⟨source, .ok ()⟩ : Call String)).map (·.source) = Language.sources := by
    rw [List.map_map]
    exact List.map_id _
  rw [find?_languages (.builtin made) .done, Languages.builtin_eq, List.append_nil, same]

def nim : LanguageSource :=
  ⟨"Nim", ["NIM", "py"], [⟨.function, "^\\s*proc\\s+([A-Za-z_]\\w*)", []⟩], Language.hashMarker, .leading⟩

def broken : LanguageSource :=
  ⟨"Broken", ["rs", "brk"], [⟨.function, "^(unclosed", []⟩], Language.hashMarker, .leading⟩

theorem broken_refused : compileLanguage readPattern broken = .error "^(unclosed" := by
  rfl

def mixed : List (Call String) := [⟨nim, .ok ()⟩, ⟨broken, .error "^(unclosed"⟩]

theorem lookups_after_mixed : ∃ start registry earlier, Starts readPattern start earlier ∧
    Course readPattern start mixed registry ∧ (registry.find? "Py").map (·.name) = some "Nim" ∧
    (registry.find? "RS").map (·.name) = some "Rust" ∧ registry.isRegistered "brk" = false ∧
    "nim" ∈ registry.extensions ∧ Course readPattern start [⟨nim, .ok ()⟩] registry := by
  obtain ⟨start, made⟩ := exists_builtin_readPattern
  obtain ⟨language, compiled⟩ : ∃ language, compileLanguage readPattern nim = .ok language :=
    Fallible.exists_of_isOk (by decide +kernel)
  have starts : Starts readPattern start _ := .builtin made
  have course : Course readPattern start mixed (start.add nim.extensions language) :=
    .call (register_of_ok compiled start) (.call (register_of_error broken_refused _) .done)
  obtain ⟨found, -, registered, -, extensions, -, without⟩ := lookups_after starts course
  refine ⟨start, _, _, starts, course, ?_, ?_, ?_, ?_, without [⟨nim, .ok ()⟩] _ [] rfl rfl⟩
  · rw [found]
    decide +kernel
  · rw [found]
    decide +kernel
  · rw [registered, found]
    decide +kernel
  · rw [extensions]
    exact ⟨⟨nim, .ok ()⟩, by simp [mixed], rfl, by decide⟩

end Waymark.LanguageRegistry
