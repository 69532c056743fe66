import Waymark.Proofs.Checkpoint
import Waymark.Proofs.Text.Lines
import Waymark.Proofs.Version

/-! A checkpoint log over many handoffs. Each time a checkpoint is put in front the log is read and written
anew, which takes returns off the ends of lines and blanks off the ends of sections and nothing else: no
summary starts a section, and only the oldest sections are dropped.
-/

set_option autoImplicit false

namespace Waymark.CheckpointLog

open Text

variable {c : Char} {line : List Char} {lines' : List (List Char)} {blocks : List (List (List Char))}
  {log part : List Char} {entry : Checkpoint} {entries : List Checkpoint} {retention : Nat}

/-! Where sections start -/

theorem startsSection_iff : startsSection line = true ↔ "## ".toList <+: line ∧ "Checkpoint".toList <:+: line := by
  rw [startsSection, Bool.and_eq_true, List.isPrefixOf_iff_prefix, occursIn_iff]

theorem startsSection_concat (line : List Char) (blank : isBlank c = true) :
    startsSection (line ++ [c]) = startsSection line := by
  rw [Bool.eq_iff_iff, startsSection_iff, startsSection_iff]
  constructor
  · rintro ⟨front, named⟩
    have inside : "Checkpoint".toList <:+: line := by
      rcases List.infix_concat_iff.1 named with ⟨before, ends⟩ | inside
      · have last := congrArg List.getLast? ends
        rw [List.getLast?_append, List.getLast?_concat] at last
        obtain rfl : 't' = c := Option.some.inj last
        cases blank
      · exact inside
    refine ⟨List.prefix_of_prefix_length_le front (List.prefix_append _ _) ?_, inside⟩
    exact Nat.le_trans (by decide) inside.length_le
  · rintro ⟨front, named⟩
    exact ⟨front.trans (List.prefix_append _ _), named.trans (List.prefix_append _ _).isInfix⟩

theorem startsSection_withoutReturn (piece : List Char) :
    startsSection (withoutReturn piece) = startsSection piece := by
  have return' : isBlank '\r' = true := by decide
  rcases withoutReturn_spec piece with same | same
  · rw [← same]
  · conv_rhs => rw [same]
    rw [startsSection_concat _ return']

/-- Lines of which the first one starts a section and no other. -/
def IsBlock : List (List Char) → Prop
  | [] => False
  | first :: others => startsSection first = true ∧ ∀ line ∈ others, startsSection line = false

/-- A text that is one section from its beginning to its end. -/
def IsSection (text : List Char) : Prop := IsBlock (split '\n' text)

theorem IsBlock.append {more : List (List Char)} (block : IsBlock lines')
    (silent : ∀ line ∈ more, startsSection line = false) : IsBlock (lines' ++ more) := by
  cases lines' with
  | nil => exact block.elim
  | cons first others =>
    refine ⟨block.1, fun line among => ?_⟩
    rcases List.mem_append.1 among with among | among
    · exact block.2 line among
    · exact silent line among

theorem isBlock_concat (blank : isBlank c = true) (front : List (List Char)) (last : List Char) :
    IsBlock (front ++ [last ++ [c]]) ↔ IsBlock (front ++ [last]) := by
  cases front with
  | nil => simp [IsBlock, startsSection_concat _ blank]
  | cons first others => simp [IsBlock, or_imp, forall_and, startsSection_concat _ blank]

theorem isBlock_withoutReturn : IsBlock (lines'.map withoutReturn) ↔ IsBlock lines' := by
  cases lines' with
  | nil => exact .rfl
  | cons first others => simp [IsBlock, startsSection_withoutReturn]

theorem sectionLines_flatten (all : ∀ block ∈ blocks, IsBlock block) : sectionLines blocks.flatten = blocks := by
  induction blocks with
  | nil => rfl
  | cons block blocks ih =>
    have later := ih fun block among => all block (List.mem_cons_of_mem _ among)
    cases block with
    | nil => exact (all [] List.mem_cons_self).elim
    | cons first others =>
      obtain ⟨starts, silent⟩ := all _ List.mem_cons_self
      have stops : blocks.flatten.takeWhile (!startsSection ·) = [] := by
        cases blocks with
        | nil => rfl
        | cons next more =>
          cases next with
          | nil => exact (all [] (List.mem_cons_of_mem _ List.mem_cons_self)).elim
          | cons second rest =>
            have starts := (all (second :: rest) (List.mem_cons_of_mem _ List.mem_cons_self)).1
            rw [List.flatten_cons, List.cons_append, List.takeWhile_cons_of_neg (by simp [starts])]
      rw [List.flatten_cons, List.cons_append, sectionLines, if_pos starts, sectionLines_silent silent, later,
        List.takeWhile_append_of_pos fun line among => by rw [silent line among]; rfl, stops, List.append_nil]

theorem isBlock_of_mem_sectionLines {block : List (List Char)} (member : block ∈ sectionLines lines') :
    IsBlock block ∧ ∀ line ∈ block, line ∈ lines' := by
  induction lines' with
  | nil => cases member
  | cons line rest ih =>
    unfold sectionLines at member
    split at member
    · rename_i starts
      rcases List.mem_cons.1 member with rfl | member
      · refine ⟨⟨starts, fun line among => ?_⟩, fun line among => ?_⟩
        · have silent := List.all_eq_true.1 List.all_takeWhile line among
          rwa [Bool.not_eq_true'] at silent
        · exact List.mem_cons.2 ((List.mem_cons.1 among).imp_right fun among => (List.takeWhile_subset _) among)
      · exact ⟨(ih member).1, fun line among => List.mem_cons_of_mem _ ((ih member).2 line among)⟩
    · exact ⟨(ih member).1, fun line among => List.mem_cons_of_mem _ ((ih member).2 line among)⟩

theorem isSection_of_mem_sections (member : part ∈ sections log) : IsSection part := by
  obtain ⟨block, among, rfl⟩ := List.mem_map.1 member
  obtain ⟨isBlock, inside⟩ := isBlock_of_mem_sectionLines among
  unfold IsSection
  rw [split_lines fun line listed => not_mem_lines (inside line listed)]
  exact isBlock.append fun line among => by rw [List.mem_singleton.1 among]; rfl

theorem IsSection.trimEnd (isSection : IsSection part) : IsSection (trimEnd part) := by
  refine trimEnd_induction part isSection fun text c blank whole => ?_
  unfold IsSection at whole ⊢
  by_cases feed : c = '\n'
  · subst feed
    rw [split_append] at whole
    obtain ⟨first, others, same⟩ := List.exists_cons_of_ne_nil (split_ne_nil '\n' text)
    rw [same] at whole ⊢
    exact ⟨whole.1, fun line among => whole.2 line (List.mem_append_left _ among)⟩
  · obtain ⟨front, last, before, after⟩ := split_concat feed text
    rw [after] at whole
    rw [before]
    exact (isBlock_concat blank front last).1 whole

/-! What a section says -/

def withoutReturns (piece : List Char) : List Char := dropWhileEnd (· == '\r') piece

/-- A section without the returns that end its lines and the blanks at its end. -/
def settled (part : List Char) : List Char := trimEnd (join ['\n'] ((split '\n' part).map withoutReturns))

theorem withoutReturns_spec (piece : List Char) :
    ∃ returns, piece = withoutReturns piece ++ returns ∧ ∀ c ∈ returns, isBlank c = true := by
  obtain ⟨returns, whole, dropped⟩ := dropWhileEnd_spec (· == '\r') piece
  refine ⟨returns, whole, fun c among => ?_⟩
  rw [beq_iff_eq.1 (dropped c among)]
  decide

theorem withoutReturns_concat (piece : List Char) : withoutReturns (piece ++ ['\r']) = withoutReturns piece :=
  (dropWhileEnd_concat (· == '\r') piece '\r').trans (if_pos rfl)

theorem withoutReturns_of_ne (piece : List Char) (visible : c ≠ '\r') :
    withoutReturns (piece ++ [c]) = piece ++ [c] :=
  (dropWhileEnd_concat (· == '\r') piece c).trans (if_neg (by simpa using visible))

theorem withoutReturns_withoutReturn (piece : List Char) :
    withoutReturns (withoutReturn piece) = withoutReturns piece := by
  rcases withoutReturn_spec piece with same | same
  · rw [← same]
  · conv_rhs => rw [same]
    rw [withoutReturns_concat]

theorem settled_concat (text : List Char) (blank : isBlank c = true) : settled (text ++ [c]) = settled text := by
  unfold settled
  by_cases feed : c = '\n'
  · subst feed
    rw [split_append, List.map_append, ← trimEnd_lines ((split '\n' text).map withoutReturns)]
    exact congrArg trimEnd ((join_concat _ _ _).trans (List.append_nil _))
  · obtain ⟨front, last, before, after⟩ := split_concat feed text
    rw [before, after, List.map_append, List.map_append, List.map_singleton, List.map_singleton, join_concat,
      join_concat]
    by_cases return' : c = '\r'
    · rw [return', withoutReturns_concat]
    · obtain ⟨returns, whole, blanks⟩ := withoutReturns_spec last
      rw [withoutReturns_of_ne last return', ← List.append_assoc, trimEnd_concat _ blank]
      conv_lhs => rw [whole]
      rw [← List.append_assoc, trimEnd_blanks _ blanks]

theorem settled_trimEnd (text : List Char) : settled (trimEnd text) = settled text := by
  refine trimEnd_induction (motive := fun trimmed => settled trimmed = settled text) text rfl ?_
  intro trimmed c blank same
  rw [← same, settled_concat _ blank]

/-- How a section is read after it was written. -/
def rewritten (part : List Char) : List (List Char) := (split '\n' (trimEnd part)).map withoutReturn ++ [[]]

theorem settled_rewritten (part : List Char) : settled ((rewritten part).flatMap (· ++ ['\n'])) = settled part := by
  have plain : ∀ line ∈ rewritten part, '\n' ∉ line := by
    intro line among feed
    rcases List.mem_append.1 among with among | among
    · obtain ⟨piece, listed, rfl⟩ := List.mem_map.1 among
      refine not_mem_of_mem_split listed ?_
      rcases withoutReturn_spec piece with same | same
      · rwa [same]
      · rw [same]
        exact List.mem_append_left _ feed
    · rw [List.mem_singleton.1 among] at feed
      cases feed
  have same : (split '\n' (trimEnd part)).map (withoutReturns ∘ withoutReturn) =
      (split '\n' (trimEnd part)).map withoutReturns :=
    List.map_congr_left fun piece _ => withoutReturns_withoutReturn piece
  have none : withoutReturns [] = [] := rfl
  rw [← settled_trimEnd part, settled, split_lines plain, List.map_append, List.map_singleton, none, join_concat,
    List.append_nil, trimEnd_lines, rewritten, List.map_append, List.map_map, List.map_singleton, same, none,
    join_concat, List.append_nil, trimEnd_lines]
  rfl

theorem isBlock_rewritten (isSection : IsSection part) : IsBlock (rewritten part) := by
  refine (isBlock_withoutReturn.2 isSection.trimEnd).append fun line among => ?_
  rw [List.mem_singleton.1 among]
  rfl

/-! Headings -/

def title (part : List Char) : List Char := trim (((split '\n' part).headD []).dropWhile (· == '#'))

theorem headings_eq_sectionLines (log : List Char) :
    headings log = (sectionLines (lines log)).map fun block => trim ((block.headD []).dropWhile (· == '#')) := by
  rw [headings]
  induction lines log with
  | nil => rfl
  | cons line rest ih =>
    unfold sectionLines
    split
    · rename_i starts
      rw [List.filter_cons_of_pos starts, List.map_cons, List.map_cons, ih]
      rfl
    · rename_i silent
      rw [List.filter_cons_of_neg silent, ih]

theorem headings_eq (log : List Char) : headings log = (sections log).map title := by
  rw [headings_eq_sectionLines, sections, List.map_map]
  refine List.map_congr_left fun block among => ?_
  obtain ⟨isBlock, inside⟩ := isBlock_of_mem_sectionLines among
  rw [Function.comp_apply, title, split_lines fun line listed => not_mem_lines (inside line listed)]
  cases block with
  | nil => exact isBlock.elim
  | cons first others => rfl

theorem trim_unsigned (line : List Char) (blank : isBlank c = true) :
    trim ((line ++ [c]).dropWhile (· == '#')) = trim (line.dropWhile (· == '#')) := by
  have unsigned : (c == '#') = false := by
    rw [beq_eq_false_iff_ne]
    rintro rfl
    cases blank
  rw [List.dropWhile_append]
  split
  · rename_i nothing
    rw [List.dropWhile_cons_of_neg (by simp [unsigned]), List.isEmpty_iff.1 nothing]
    exact trim_concat [] blank
  · exact trim_concat _ blank

theorem title_concat (text : List Char) (blank : isBlank c = true) : title (text ++ [c]) = title text := by
  unfold title
  by_cases feed : c = '\n'
  · subst feed
    obtain ⟨first, others, same⟩ := List.exists_cons_of_ne_nil (split_ne_nil '\n' text)
    rw [split_append, same]
    rfl
  · obtain ⟨front, last, before, after⟩ := split_concat feed text
    rw [before, after]
    cases front with
    | nil => exact trim_unsigned last blank
    | cons first others => rfl

theorem title_trimEnd (text : List Char) : title (trimEnd text) = title text := by
  refine trimEnd_induction (motive := fun trimmed => title trimmed = title text) text rfl ?_
  intro trimmed c blank same
  rw [← same, title_concat _ blank]

theorem title_settled (part : List Char) : title (settled part) = title part := by
  obtain ⟨first, others, same⟩ := List.exists_cons_of_ne_nil (split_ne_nil '\n' part)
  have plain : ∀ piece ∈ (split '\n' part).map withoutReturns, '\n' ∉ piece := by
    intro piece among
    obtain ⟨whole, listed, rfl⟩ := List.mem_map.1 among
    obtain ⟨returns, parts, -⟩ := withoutReturns_spec whole
    intro feed
    refine not_mem_of_mem_split listed ?_
    rw [parts]
    exact List.mem_append_left _ feed
  have some : (split '\n' part).map withoutReturns ≠ [] := by
    rw [same]
    exact List.cons_ne_nil _ _
  rw [settled, title_trimEnd, title, title, split_join some plain, same]
  obtain ⟨returns, whole, blanks⟩ := withoutReturns_spec first
  change trim ((withoutReturns first).dropWhile _) = trim (first.dropWhile _)
  conv_rhs => rw [whole]
  clear whole
  induction returns using List.reverseRecOn with
  | nil => rw [List.append_nil]
  | append_singleton returns c ih =>
    rw [← List.append_assoc, trim_unsigned _ (blanks c (List.mem_append_right _ List.mem_cons_self))]
    exact ih fun d among => blanks d (List.mem_append_left _ among)

/-! The section of a checkpoint -/

def label : String := "Automated Checkpoint: "

def headingOf (entry : Checkpoint) : List Char := label.toList ++ entry.timestamp.heading

/-- The lines of a summary in its section: the first behind a dash, each further one behind two blanks. -/
def summaryLines (summary : List Char) : List (List Char) :=
  match lines summary with
  | [] => [['-', ' ']]
  | first :: others => ('-' :: ' ' :: first) :: others.map fun line => ' ' :: ' ' :: line

def entryLines (entry : Checkpoint) : List (List Char) :=
  Checkpoint.stateLines entry.timestamp entry.changelogVersion entry.projectVersion ++
    (["- **Type**: ".toList ++ entry.category.toText.toList, [], "### Recent Changes".toList] ++
      (summaryLines (trim entry.summary.toList) ++ [[], "---".toList]))

theorem join_indented (first : List Char) (others : List (List Char)) :
    join ['\n', ' ', ' '] (first :: others) ++ ['\n'] =
      first ++ '\n' :: (others.map fun line => ' ' :: ' ' :: line).flatMap (· ++ ['\n']) := by
  induction others generalizing first with
  | nil => rfl
  | cons second others ih =>
    have step : join ['\n', ' ', ' '] (first :: second :: others) =
        first ++ ['\n', ' ', ' '] ++ join ['\n', ' ', ' '] (second :: others) := rfl
    rw [step, List.append_assoc, ih]
    simp only [List.map_cons, List.flatMap_cons, List.append_assoc, List.cons_append, List.nil_append]

theorem flatMap_summaryLines (summary : List Char) : (summaryLines summary).flatMap (· ++ ['\n']) =
    '-' :: ' ' :: (join ['\n', ' ', ' '] (lines summary) ++ ['\n']) := by
  unfold summaryLines
  split
  · rename_i none
    rw [none]
    rfl
  · rename_i first others some
    rw [some, join_indented, List.flatMap_cons]
    simp only [List.append_assoc, List.cons_append, List.nil_append]

theorem render_lines (entry : Checkpoint) : entry.render = (entryLines entry).flatMap (· ++ ['\n']) := by
  have state : "\n\n### Project State\n- **Version**: ".toList =
      '\n' :: '\n' :: ("### Project State".toList ++ '\n' :: "- **Version**: ".toList) := by decide +kernel
  have project : "\n- **Project Version**: ".toList = '\n' :: "- **Project Version**: ".toList := by decide +kernel
  have type : "\n- **Type**: ".toList = '\n' :: "- **Type**: ".toList := by decide +kernel
  have changes : "\n\n### Recent Changes\n- ".toList =
      '\n' :: '\n' :: ("### Recent Changes".toList ++ ['\n', '-', ' ']) := by decide +kernel
  have rule : "\n\n---\n".toList = '\n' :: '\n' :: ("---".toList ++ ['\n']) := by decide +kernel
  simp only [entryLines, Checkpoint.render, Checkpoint.stateLines, List.flatMap_append, flatMap_summaryLines, state,
    project, type, changes, rule, List.flatMap_cons, List.flatMap_nil, List.append_assoc, List.cons_append,
    List.nil_append, List.append_nil]

theorem plain_summaryLines (summary : List Char) : ∀ line ∈ summaryLines summary, '\n' ∉ line := by
  have plain : ∀ line ∈ lines summary, '\n' ∉ line := fun line among => not_mem_lines among
  unfold summaryLines
  split
  · decide
  · rename_i first others some
    rw [some] at plain
    intro line among
    rcases List.mem_cons.1 among with rfl | among
    · simpa using plain first List.mem_cons_self
    · obtain ⟨further, listed, rfl⟩ := List.mem_map.1 among
      simpa using plain further (List.mem_cons_of_mem _ listed)

theorem plain_entryLines (entry : Checkpoint) : ∀ line ∈ entryLines entry, '\n' ∉ line := by
  intro line among
  rcases List.mem_append.1 among with among | among
  · exact fun feed => (Checkpoint.isLine_stateLines line among _ feed).1 rfl
  rcases List.mem_append.1 among with among | among
  · have type : '\n' ∉ "- **Type**: ".toList ++ entry.category.toText.toList := by
      cases entry.category <;> decide +kernel
    simp only [List.mem_cons, List.not_mem_nil, or_false] at among
    rcases among with rfl | rfl | rfl
    · exact type
    · decide
    · decide +kernel
  rcases List.mem_append.1 among with among | among
  · exact plain_summaryLines _ line among
  · simp only [List.mem_cons, List.not_mem_nil, or_false] at among
    rcases among with rfl | rfl <;> decide

theorem silent_summaryLines (summary : List Char) : ∀ line ∈ summaryLines summary, startsSection line = false := by
  unfold summaryLines
  split
  · decide
  · intro line among
    rcases List.mem_cons.1 among with rfl | among
    · rfl
    · obtain ⟨further, -, rfl⟩ := List.mem_map.1 among
      rfl

theorem isBlock_entryLines (entry : Checkpoint) : IsBlock (entryLines entry) := by
  obtain ⟨others, state, silent⟩ :=
    Checkpoint.startsSection_stateLines entry.timestamp entry.changelogVersion entry.projectVersion
  have first : IsBlock (Checkpoint.stateLines entry.timestamp entry.changelogVersion entry.projectVersion) := by
    rw [state]
    exact ⟨Checkpoint.startsSection_heading _, silent⟩
  refine first.append fun line among => ?_
  rcases List.mem_append.1 among with among | among
  · simp only [List.mem_cons, List.not_mem_nil, or_false] at among
    rcases among with rfl | rfl | rfl <;> rfl
  rcases List.mem_append.1 among with among | among
  · exact silent_summaryLines _ line among
  · simp only [List.mem_cons, List.not_mem_nil, or_false] at among
    rcases among with rfl | rfl <;> rfl

theorem isSection_render (entry : Checkpoint) : IsSection entry.render := by
  unfold IsSection
  rw [render_lines, split_lines (plain_entryLines entry)]
  exact (isBlock_entryLines entry).append fun line among => by rw [List.mem_singleton.1 among]; rfl

/-- A time ends with its seconds, and so with a digit. -/
theorem trimEnd_heading (t : Time) : trimEnd t.heading = t.heading := by
  have seconds := Decimal.writePadded_ne_nil 2 t.second
  obtain ⟨digits, last, parts⟩ := (List.eq_nil_or_concat _).resolve_left seconds
  rw [List.concat_eq_append] at parts
  have digit : last.isDigit = true := by
    refine Decimal.isDigit_of_mem_writePadded (?_ : last ∈ Decimal.writePadded 2 t.second)
    rw [parts]
    exact List.mem_append_right _ List.mem_cons_self
  have visible : trimEnd (Time.twoDigits t.second) = Time.twoDigits t.second := by
    rw [Time.twoDigits, parts, trimEnd_visible _ (not_isBlank_of_isDigit digit)]
  have some : trimEnd (Time.twoDigits t.second) ≠ [] := by
    rw [visible]
    exact seconds
  rw [Time.heading, Time.clockText, ← List.cons_append, ← List.append_assoc, trimEnd_append _ some, visible]

theorem title_render (entry : Checkpoint) : title entry.render = headingOf entry := by
  obtain ⟨others, state, -⟩ :=
    Checkpoint.startsSection_stateLines entry.timestamp entry.changelogVersion entry.projectVersion
  have first : (split '\n' entry.render).headD [] = '#' :: '#' :: ' ' :: headingOf entry := by
    rw [render_lines, split_lines (plain_entryLines entry), entryLines, state]
    rfl
  have some : trimEnd entry.timestamp.heading ≠ [] := by
    rw [trimEnd_heading, Time.heading]
    exact List.append_ne_nil_of_right_ne_nil _ (List.cons_ne_nil _ _)
  have whole : trimEnd (headingOf entry) = headingOf entry := by
    rw [headingOf, trimEnd_append _ some, trimEnd_heading]
  rw [title, first]
  exact whole

/-! Rounds of putting a checkpoint in front -/

theorem lines_prepend (log : List Char) (entry : Checkpoint) (retention : Nat) :
    lines (prepend log entry retention) =
      headerLines ++ (((entry.render :: sections log).take (max retention 1)).map rewritten).flatten := by
  have kept : ∀ parts : List (List Char), lines (parts.flatMap fun part => trimEnd part ++ ['\n', '\n']) =
      (parts.map rewritten).flatten := by
    intro parts
    induction parts with
    | nil => rfl
    | cons part parts ih =>
      rw [List.flatMap_cons, List.append_assoc, List.map_cons, List.flatten_cons, ← ih]
      rw [List.cons_append, List.cons_append, List.nil_append, lines_feed, rewritten, List.append_assoc]
      exact congrArg _ (lines_feed [] _)
  unfold prepend
  rw [header_eq, lines_append isLine_headerLines, kept]

/-- What is read of a log after a checkpoint was put in front. -/
theorem sections_prepend_eq (log : List Char) (entry : Checkpoint) (retention : Nat) :
    sections (prepend log entry retention) = ((entry.render :: sections log).take (max retention 1)).map
      fun part => (rewritten part).flatMap (· ++ ['\n']) := by
  have all : ∀ block ∈ ((entry.render :: sections log).take (max retention 1)).map rewritten, IsBlock block := by
    intro block among
    obtain ⟨part, kept, rfl⟩ := List.mem_map.1 among
    refine isBlock_rewritten ?_
    have listed := List.mem_of_mem_take kept
    rcases List.mem_cons.1 listed with same | older
    · rw [same]
      exact isSection_render entry
    · exact isSection_of_mem_sections older
  rw [sections, lines_prepend, sectionLines_silent silent_headerLines, sectionLines_flatten all, List.map_map]
  rfl

theorem settled_prepend (log : List Char) (entry : Checkpoint) (retention : Nat) :
    (sections (prepend log entry retention)).map settled =
      ((entry.render :: sections log).map settled).take (max retention 1) := by
  rw [sections_prepend_eq, List.map_map, List.map_take]
  exact congrArg _ (List.map_congr_left fun part _ => settled_rewritten part)

def prependAll (log : List Char) (entries : List Checkpoint) (retention : Nat) : List Char :=
  entries.foldl (fun log entry => prepend log entry retention) log

theorem prependAll_concat (log : List Char) (entries : List Checkpoint) (entry : Checkpoint) (retention : Nat) :
    prependAll log (entries ++ [entry]) retention = prepend (prependAll log entries retention) entry retention := by
  rw [prependAll, List.foldl_append]
  rfl

/-- After any run the newest sections are the checkpoints of the run and then those of the log. -/
theorem settled_prependAll (log : List Char) (entries : List Checkpoint) (retention : Nat) :
    ((sections (prependAll log entries retention)).map settled).take (max retention 1) =
      ((entries.reverse.map Checkpoint.render ++ sections log).map settled).take (max retention 1) := by
  induction entries using List.reverseRecOn with
  | nil => rfl
  | append_singleton entries entry ih =>
    obtain ⟨n, positive⟩ : ∃ n, max retention 1 = n + 1 := ⟨max retention 1 - 1, by omega⟩
    rw [positive] at ih
    have older := congrArg (List.take n) ih
    rw [List.take_take, List.take_take, Nat.min_eq_left (Nat.le_succ n)] at older
    rw [prependAll_concat, settled_prepend, List.take_take, Nat.min_self, List.reverse_append, List.reverse_singleton,
      positive]
    simp only [List.map_cons, List.take_succ_cons, List.cons_append, List.nil_append, older]

theorem length_sections_prepend (log : List Char) (entry : Checkpoint) (retention : Nat) :
    (sections (prepend log entry retention)).length ≤ max retention 1 := by
  rw [sections_prepend_eq, List.length_map]
  exact List.length_take_le _ _

theorem map_title_settled (parts : List (List Char)) : (parts.map settled).map title = parts.map title := by
  rw [List.map_map]
  exact List.map_congr_left fun part _ => title_settled part

theorem map_title_render (entries : List Checkpoint) :
    (entries.map Checkpoint.render).map title = entries.map headingOf := by
  simp only [List.map_map, Function.comp_def, title_render]

/-- What a run of checkpoints leaves of a log: the newest of its own sections and then of those that were
there, none of them divided, merged or changed in what it says. -/
structure Retains (log : List Char) (entries : List Checkpoint) (retention : Nat) (after : List Char) : Prop where
  headings : headings after = (entries.reverse.map headingOf ++ headings log).take (max retention 1)
  count : (sections after).length = ((lines after).filter startsSection).length
  sections : (sections after).map settled =
    ((entries.reverse.map Checkpoint.render ++ sections log).take (max retention 1)).map settled

/-- An absent log is the empty one. Summaries are any text. -/
theorem prependAll_retains (log : List Char) (first : Checkpoint) (later : List Checkpoint) (retention : Nat) :
    Retains log (first :: later) retention (prependAll log (first :: later) retention) := by
  have short : (sections (prependAll log (first :: later) retention)).length ≤ max retention 1 := by
    rcases List.eq_nil_or_concat (first :: later) with none | ⟨earlier, last, some⟩
    · cases none
    · rw [some, List.concat_eq_append, prependAll_concat]
      exact length_sections_prepend _ _ _
  have kept : (sections (prependAll log (first :: later) retention)).map settled =
      (((first :: later).reverse.map Checkpoint.render ++ sections log).take (max retention 1)).map settled := by
    rw [List.map_take, ← settled_prependAll, List.take_of_length_le (by rwa [List.length_map])]
  have titles : ((first :: later).reverse.map Checkpoint.render ++ sections log).map title =
      (first :: later).reverse.map headingOf ++ headings log := by
    rw [List.map_append, ← headings_eq, map_title_render]
  constructor
  case headings => rw [headings_eq, ← map_title_settled, kept, map_title_settled, List.map_take, titles]
  case count =>
    have heads := congrArg List.length (headings_eq (prependAll log (first :: later) retention))
    rw [headings, List.length_map, List.length_map] at heads
    exact heads.symm
  case sections => exact kept

/-- A line of a summary that looks like a heading stays within its section. -/
example : headings (prependAll "intro\r\n## Checkpoint: by hand\r\n- notes \r\n".toList
    [⟨Time.epoch, ⟨1, 1, 0⟩, none, .feature, "Reworked\r\n## Checkpoint notes\r"⟩] 2) =
      ["Automated Checkpoint: 1970-01-01 00:00:00".toList, "Checkpoint: by hand".toList] := by
  decide +kernel

end Waymark.CheckpointLog
