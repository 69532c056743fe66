import Waymark.Changelog.Checkpoint
import Waymark.Proofs.Text.Decimal

/-! A checkpoint that is put in front of a log is its first section. Whatever the summary says, the section
opens with the lines that name the time and the versions.
-/

set_option autoImplicit false

namespace Waymark

namespace Text

/-- A line as it is between two ends: it does not end, and nothing of it belongs to an end. -/
def IsLine (line : List Char) : Prop := ∀ c ∈ line, c ≠ '\n' ∧ c ≠ '\r'

instance (line : List Char) : Decidable (IsLine line) :=
  List.decidableBAll (fun c => c ≠ '\n' ∧ c ≠ '\r') line

variable {line : List Char} {before : List (List Char)}

theorem linesFrom_line (h : IsLine line) (open' rest : List Char) :
    linesFrom open' (line ++ '\n' :: rest) = (dropReturn (line.reverse ++ open')).reverse :: lines rest := by
  induction line generalizing open' with
  | nil => rfl
  | cons c line ih =>
    have goesOn := (h c List.mem_cons_self).1
    rw [List.cons_append, linesFrom, if_neg goesOn, ih fun d member => h d (List.mem_cons_of_mem _ member)]
    simp

theorem lines_line (h : IsLine line) (rest : List Char) : lines (line ++ '\n' :: rest) = line :: lines rest := by
  have whole : dropReturn line.reverse = line.reverse := by
    cases reversed : line.reverse with
    | nil => rfl
    | cons c more =>
      have member : c ∈ line := List.mem_reverse.1 (reversed ▸ List.mem_cons_self)
      unfold dropReturn
      split
      · rename_i same
        cases same
        exact absurd rfl (h _ member).2
      · rfl
  rw [lines, linesFrom_line h, List.append_nil, whole, List.reverse_reverse]

theorem lines_append (all : ∀ line ∈ before, IsLine line) (rest : List Char) :
    lines (before.flatMap (· ++ ['\n']) ++ rest) = before ++ lines rest := by
  induction before with
  | nil => rfl
  | cons line more ih =>
    rw [List.flatMap_cons, List.append_assoc, List.append_assoc, List.singleton_append,
      lines_line (all line List.mem_cons_self), ih fun line member => all line (List.mem_cons_of_mem _ member)]
    rfl

theorem occursIn_middle (before part after : List Char) : occursIn part (before ++ (part ++ after)) = true := by
  have here : part.isPrefixOf (part ++ after) = true := List.isPrefixOf_iff_prefix.2 (List.prefix_append _ _)
  induction before with
  | nil =>
    rw [List.nil_append]
    cases whole : part ++ after with
    | nil =>
      rw [List.append_eq_nil_iff] at whole
      rw [whole.1]
      rfl
    | cons c rest =>
      rw [whole] at here
      rw [occursIn, here, Bool.true_or]
  | cons c before ih =>
    rw [List.cons_append, occursIn, ih, Bool.or_true]

theorem trimEnd_append (front : List Char) {back : List Char} (visible : trimEnd back ≠ []) :
    trimEnd (front ++ back) = front ++ trimEnd back := by
  have some : (back.reverse.dropWhile isBlank).isEmpty = false := by
    cases dropped : back.reverse.dropWhile isBlank with
    | nil =>
      rw [trimEnd, dropWhileEnd, dropped] at visible
      exact absurd rfl visible
    | cons => rfl
  simp only [trimEnd, dropWhileEnd, List.reverse_append, List.dropWhile_append, some, Bool.false_eq_true, if_false,
    List.reverse_append, List.reverse_reverse]

end Text

namespace Checkpoint

open Text

def stateLines (timestamp : Time) (version : Version) (project : Option Version) : List (List Char) :=
  [heading.toList ++ timestamp.heading, [], "### Project State".toList,
    "- **Version**: ".toList ++ version.text,
    "- **Project Version**: ".toList ++ ((project.map Version.text).getD "none".toList)]

theorem isLine_digits {digits : List Char} (all : ∀ c ∈ digits, c.isDigit = true) : IsLine digits := by
  intro c member
  have digit := all c member
  constructor <;> (rintro rfl; cases digit)

theorem isLine_append {a b : List Char} (first : IsLine a) (second : IsLine b) : IsLine (a ++ b) := by
  intro c member
  rcases List.mem_append.1 member with member | member
  · exact first c member
  · exact second c member

theorem isLine_cons {c : Char} {rest : List Char} (inside : c ≠ '\n' ∧ c ≠ '\r') (h : IsLine rest) :
    IsLine (c :: rest) := by
  intro d member
  rcases List.mem_cons.1 member with rfl | member
  · exact inside
  · exact h d member

theorem isLine_padded (width n : Nat) : IsLine (Decimal.writePadded width n) :=
  isLine_digits fun _ => Decimal.isDigit_of_mem_writePadded

theorem isLine_count (n : Count) : IsLine n.text := isLine_digits fun _ => Decimal.isDigit_of_mem_write

theorem isLine_heading (t : Time) : IsLine t.heading := by
  have year : IsLine (Time.yearText t.date.year) := by
    unfold Time.yearText
    split
    · exact isLine_padded _ _
    · refine isLine_cons ?_ (isLine_padded _ _)
      split <;> decide
  have dash : IsLine ['-'] := by decide
  have colon : IsLine [':'] := by decide
  unfold Time.heading Time.dateText Time.clockText Time.twoDigits
  refine isLine_append ?_ (isLine_cons (by decide) ?_)
  · exact isLine_append (isLine_append (isLine_append (isLine_append year dash) (isLine_padded _ _)) dash)
      (isLine_padded _ _)
  · exact isLine_append (isLine_append (isLine_append (isLine_append (isLine_padded _ _) colon)
      (isLine_padded _ _)) colon) (isLine_padded _ _)

theorem isLine_version (v : Version) : IsLine v.text := by
  unfold Version.text
  exact isLine_append (isLine_append (isLine_count _) (isLine_cons (by decide) (isLine_count _)))
    (isLine_cons (by decide) (isLine_count _))

variable {timestamp : Time} {version : Version} {project : Option Version}

theorem isLine_stateLines : ∀ line ∈ stateLines timestamp version project, IsLine line := by
  have project' : IsLine ((project.map Version.text).getD "none".toList) := by
    cases project with
    | none => decide
    | some project => exact isLine_version project
  intro line member
  simp only [stateLines, List.mem_cons, List.not_mem_nil, or_false] at member
  rcases member with rfl | rfl | rfl | rfl | rfl
  · exact isLine_append (by decide) (isLine_heading timestamp)
  · decide
  · decide
  · exact isLine_append (by decide) (isLine_version version)
  · exact isLine_append (by decide) project'

theorem startsSection_heading (rest : List Char) : CheckpointLog.startsSection (heading.toList ++ rest) = true := by
  have parts : heading.toList = "## ".toList ++ ("Automated ".toList ++ ("Checkpoint".toList ++ ": ".toList)) := by
    decide
  have first : "## ".toList.isPrefixOf (heading.toList ++ rest) = true := by
    rw [List.isPrefixOf_iff_prefix, parts, List.append_assoc]
    exact List.prefix_append _ _
  have named : occursIn "Checkpoint".toList (heading.toList ++ rest) = true := by
    have middle := occursIn_middle ("## ".toList ++ "Automated ".toList) "Checkpoint".toList (": ".toList ++ rest)
    rw [parts]
    simpa only [List.append_assoc] using middle
  rw [CheckpointLog.startsSection, first, named]
  rfl

theorem startsSection_stateLines (timestamp : Time) (version : Version) (project : Option Version) :
    ∃ others, stateLines timestamp version project = (heading.toList ++ timestamp.heading) :: others ∧
      ∀ line ∈ others, CheckpointLog.startsSection line = false := by
  refine ⟨_, rfl, fun line member => ?_⟩
  simp only [List.mem_cons, List.not_mem_nil, or_false] at member
  rcases member with rfl | rfl | rfl | rfl <;> rfl

theorem render_eq (entry : Checkpoint) : ∃ body, entry.render =
    (stateLines entry.timestamp entry.changelogVersion entry.projectVersion).flatMap (· ++ ['\n']) ++
      (body ++ "\n\n---\n".toList) := by
  have state : "\n\n### Project State\n- **Version**: ".toList =
      '\n' :: '\n' :: ("### Project State".toList ++ '\n' :: "- **Version**: ".toList) := by decide +kernel
  have project : "\n- **Project Version**: ".toList = '\n' :: "- **Project Version**: ".toList := by decide +kernel
  have type : "\n- **Type**: ".toList = '\n' :: "- **Type**: ".toList := by decide +kernel
  refine ⟨"- **Type**: ".toList ++ (entry.category.toText.toList ++ ("\n\n### Recent Changes\n- ".toList ++
    join ['\n', ' ', ' '] (lines (trim entry.summary.toList)))), ?_⟩
  simp only [render, stateLines, state, project, type, List.flatMap_cons, List.flatMap_nil, List.append_assoc,
    List.cons_append, List.nil_append]

end Checkpoint

namespace CheckpointLog

open Text Checkpoint

theorem sectionLines_silent {before rest : List (List Char)}
    (silent : ∀ line ∈ before, startsSection line = false) :
    sectionLines (before ++ rest) = sectionLines rest := by
  induction before with
  | nil => rfl
  | cons line before ih =>
    have here := silent line List.mem_cons_self
    rw [List.cons_append, sectionLines, here, if_neg (by decide),
      ih fun line member => silent line (List.mem_cons_of_mem _ member)]

def headerLines : List (List Char) :=
  ["# Arkival Checkpoint Log".toList, [], "*Generated by: arkival-storage*".toList, [],
    "Newest checkpoints first. Older sections are pruned automatically.".toList, []]

theorem header_eq : header.toList = headerLines.flatMap (· ++ ['\n']) := by decide +kernel

theorem isLine_headerLines : ∀ line ∈ headerLines, IsLine line := by
  intro line member
  simp only [headerLines, List.mem_cons, List.not_mem_nil, or_false] at member
  rcases member with rfl | rfl | rfl | rfl | rfl | rfl <;> decide +kernel

theorem silent_headerLines : ∀ line ∈ headerLines, startsSection line = false := by
  intro line member
  simp only [headerLines, List.mem_cons, List.not_mem_nil, or_false] at member
  rcases member with rfl | rfl | rfl | rfl | rfl | rfl <;> rfl

/-- A log with a new checkpoint is its header, the first lines of the checkpoint and something more, for
only blanks at the end of a section are dropped. -/
theorem prepend_eq (log : List Char) (entry : Checkpoint) (retention : Nat) :
    ∃ rest, prepend log entry retention = headerLines.flatMap (· ++ ['\n']) ++
      ((stateLines entry.timestamp entry.changelogVersion entry.projectVersion).flatMap (· ++ ['\n']) ++ rest) := by
  obtain ⟨kept, more⟩ : ∃ kept, (entry.render :: sections log).take (max retention 1) = entry.render :: kept := by
    obtain ⟨n, positive⟩ : ∃ n, max retention 1 = n + 1 := ⟨max retention 1 - 1, by omega⟩
    rw [positive]
    exact ⟨_, rfl⟩
  obtain ⟨body, shape⟩ := render_eq entry
  have visible : trimEnd "\n\n---\n".toList ≠ [] := by decide +kernel
  have trimmed : trimEnd entry.render =
      (stateLines entry.timestamp entry.changelogVersion entry.projectVersion).flatMap (· ++ ['\n']) ++
        (body ++ trimEnd "\n\n---\n".toList) := by
    rw [shape, ← List.append_assoc, trimEnd_append _ visible, List.append_assoc]
  unfold prepend
  simp only [more, List.flatMap_cons, trimmed, header_eq, List.append_assoc]
  exact ⟨_, rfl⟩

theorem sections_prepend (log : List Char) (entry : Checkpoint) (retention : Nat) :
    ∃ first older, sections (prepend log entry retention) = first :: older ∧
      (stateLines entry.timestamp entry.changelogVersion entry.projectVersion).flatMap (· ++ ['\n']) <+: first := by
  obtain ⟨rest, whole⟩ : ∃ rest, prepend log entry retention = headerLines.flatMap (· ++ ['\n']) ++
      ((stateLines entry.timestamp entry.changelogVersion entry.projectVersion).flatMap (· ++ ['\n']) ++ rest) :=
    prepend_eq log entry retention
  have read : lines (prepend log entry retention) = headerLines ++
      (stateLines entry.timestamp entry.changelogVersion entry.projectVersion ++ lines rest) := by
    rw [whole, lines_append isLine_headerLines, lines_append isLine_stateLines]
  obtain ⟨others, state, inside⟩ :=
    startsSection_stateLines entry.timestamp entry.changelogVersion entry.projectVersion
  have section' : (others ++ lines rest).takeWhile (!startsSection ·) =
      others ++ (lines rest).takeWhile (!startsSection ·) :=
    List.takeWhile_append_of_pos fun line member => by rw [inside line member]; rfl
  have cut : sectionLines (stateLines entry.timestamp entry.changelogVersion entry.projectVersion ++ lines rest) =
      (stateLines entry.timestamp entry.changelogVersion entry.projectVersion ++
        (lines rest).takeWhile (!startsSection ·)) :: sectionLines (others ++ lines rest) := by
    rw [state, List.cons_append, sectionLines, startsSection_heading, if_pos rfl, section']
    rfl
  rw [sections, read, sectionLines_silent silent_headerLines, cut, List.map_cons]
  refine ⟨_, _, rfl, ?_⟩
  rw [List.flatMap_append]
  exact List.prefix_append _ _

end CheckpointLog

end Waymark
