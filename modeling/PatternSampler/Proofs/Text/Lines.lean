import Mathlib

/-! # Lines of text

A line ends with a line feed, and only the last line of a text may do without one. Texts that are written
as lines are read back as the same lines, empty ones included, unless there are line feeds inside them.
Each of those makes one line more.
-/

namespace PatternSampler.Text

/-- The lines of a text, without their line feeds. What comes after the last line feed is a line if there
    is anything. -/
def lines (text : String) : List String :=
  let parts := text.toList.splitOn '\n'
  (if parts.getLast? = some [] then parts.dropLast else parts).map String.ofList

/-- The texts as lines, each with its line feed. -/
def written (texts : List String) : String := String.join (texts.map (· ++ "\n"))

variable {texts : List String}

theorem written_cons (text : String) (texts : List String) :
    written (text :: texts) = text ++ "\n" ++ written texts := by
  rw [written, List.map_cons, String.join_cons]
  rfl

theorem written_eq_empty_iff : written texts = "" ↔ texts = [] := by
  cases texts with
  | nil => exact ⟨fun _ => rfl, fun _ => rfl⟩
  | cons text texts => simp [written_cons]

theorem written_eq_intercalate (texts : List String) :
    written texts = "\n".intercalate (texts ++ [""]) := by
  induction texts with
  | nil => rfl
  | cons text texts ih =>
      rw [written_cons, ih, List.cons_append, String.intercalate_cons_of_ne_nil (by simp)]

theorem intercalate_append_feed (nonempty : texts ≠ []) :
    "\n".intercalate texts ++ "\n" = written texts := by
  rw [written_eq_intercalate, String.intercalate_append_of_ne_nil nonempty (by simp),
    String.intercalate_singleton, String.append_empty]

theorem lines_written (no_feed : ∀ text ∈ texts, '\n' ∉ text.toList) : lines (written texts) = texts := by
  have parts : (written texts).toList.splitOn '\n' = texts.map String.toList ++ [[]] := by
    rw [written_eq_intercalate, String.toList_intercalate, List.map_append]
    refine List.splitOn_intercalate '\n' ?_ (by simp)
    simpa [or_imp, forall_and] using no_feed
  simp [lines, parts]

/-! ## Line feeds inside texts -/

/-- There is something after the last line feed of the text. -/
def GoesOn (text : String) : Prop := ∃ cs c, text.toList = cs ++ [c] ∧ c ≠ '\n'

theorem length_splitOn (cs : List Char) : (cs.splitOn '\n').length = cs.count '\n' + 1 := by
  induction cs with
  | nil => rfl
  | cons c cs ih =>
      rw [List.splitOn_cons_eq_if_modifyHead, List.count_cons]
      split <;> simp [ih]

theorem exists_splitOn_concat (cs : List Char) {c : Char} (no_feed : c ≠ '\n') :
    ∃ parts part, (cs ++ [c]).splitOn '\n' = parts ++ [part ++ [c]] := by
  induction cs with
  | nil => exact ⟨[], [], by simp [List.splitOn_cons_eq_if_modifyHead, no_feed]⟩
  | cons d cs ih =>
      obtain ⟨parts, part, cut⟩ := ih
      rw [List.cons_append, List.splitOn_cons_eq_if_modifyHead, cut]
      split
      · exact ⟨[] :: parts, part, rfl⟩
      · cases parts with
        | nil => exact ⟨[], d :: part, rfl⟩
        | cons first parts => exact ⟨(d :: first) :: parts, part, rfl⟩

/-- A text that `GoesOn` behind its last line feed has one line more than it has line feeds. -/
theorem length_lines {text : String} (goes_on : GoesOn text) :
    (lines text).length = text.toList.count '\n' + 1 := by
  obtain ⟨cs, c, ends, no_feed⟩ := goes_on
  obtain ⟨parts, part, cut⟩ := exists_splitOn_concat cs no_feed
  rw [lines, List.length_map, if_neg, length_splitOn]
  simp [ends, cut]

namespace GoesOn

variable {text : String}

theorem ne_empty (goes_on : GoesOn text) : text ≠ "" := by
  obtain ⟨cs, c, ends, -⟩ := goes_on
  rintro rfl
  simp at ends

theorem append (before : String) (goes_on : GoesOn text) : GoesOn (before ++ text) := by
  obtain ⟨cs, c, ends, no_feed⟩ := goes_on
  exact ⟨before.toList ++ cs, c, by simp [ends], no_feed⟩

theorem intercalate (nonempty : texts ≠ []) (each : ∀ text ∈ texts, GoesOn text) :
    GoesOn ("\n".intercalate texts) := by
  induction texts with
  | nil => exact absurd rfl nonempty
  | cons text texts ih =>
      obtain ⟨first, others⟩ := List.forall_mem_cons.mp each
      by_cases alone : texts = []
      · rwa [alone, String.intercalate_singleton]
      · rw [String.intercalate_cons_of_ne_nil alone]
        exact (ih alone others).append _

end GoesOn

theorem count_intercalate (nonempty : texts ≠ []) : ("\n".intercalate texts).toList.count '\n' + 1 =
    texts.length + (texts.map fun text => text.toList.count '\n').sum := by
  induction texts with
  | nil => exact absurd rfl nonempty
  | cons text texts ih =>
      by_cases alone : texts = []
      · subst alone
        simp [Nat.add_comm]
      · have rest := ih alone
        have feed : "\n".toList.count '\n' = 1 := rfl
        rw [String.intercalate_cons_of_ne_nil alone]
        simp only [String.toList_append, List.count_append, List.length_cons, List.map_cons,
          List.sum_cons]
        omega

/-- `lines` takes texts apart that are joined by line feeds, unless the last one is empty. -/
theorem lines_intercalate (no_feed : ∀ text ∈ texts, '\n' ∉ text.toList)
    (last : texts.getLast? ≠ some "") : lines ("\n".intercalate texts) = texts := by
  by_cases nonempty : texts = []
  · subst nonempty
    rfl
  · have parts : ("\n".intercalate texts).toList.splitOn '\n' = texts.map String.toList := by
      rw [String.toList_intercalate]
      exact List.splitOn_intercalate '\n' (by simpa using no_feed) (by simpa using nonempty)
    rw [lines, parts, if_neg]
    · simp
    · simpa [List.getLast?_map] using last

end PatternSampler.Text
