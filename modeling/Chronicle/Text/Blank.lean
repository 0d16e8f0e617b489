-- SUMMARY: White space as Unicode defines it, and the text left when it is cut from both ends.

/-!
# Blank characters

`isBlank` is the Unicode property `White_Space`. It is wider than the white space of ASCII and
leaves out the characters of zero width: U+180E, U+200B, U+2060 and U+FEFF are not blank.
-/

namespace Chronicle.Text

/-- The property `White_Space`: tab to carriage return, the spaces, the line and paragraph
separators and the next-line control. -/
def isBlank (c : Char) : Bool :=
  let n := c.toNat
  (0x09 ≤ n && n ≤ 0x0D) || n == 0x20 || n == 0x85 || n == 0xA0 || n == 0x1680
    || (0x2000 ≤ n && n ≤ 0x200A) || n == 0x2028 || n == 0x2029 || n == 0x202F || n == 0x205F
    || n == 0x3000

/-- Cut the blank characters from both ends. -/
def trimBlanks (cs : List Char) : List Char :=
  ((cs.dropWhile isBlank).reverse.dropWhile isBlank).reverse

/-- Cut the blank characters from both ends of a text. -/
def trim (s : String) : String :=
  String.ofList (trimBlanks s.toList)

@[simp] theorem toList_trim (s : String) : (trim s).toList = trimBlanks s.toList := by
  simp [trim]

/-- Nothing is cut in front of a text that does not start with a blank. -/
theorem dropWhile_isBlank_append {cs : List Char} (h : ∀ c ∈ cs, isBlank c = false) (hne : cs ≠ [])
    (rest : List Char) : (cs ++ rest).dropWhile isBlank = cs ++ rest := by
  cases cs with
  | nil => exact absurd rfl hne
  | cons c cs =>
    have hc : ¬ isBlank c = true := Bool.not_eq_true _ ▸ h c List.mem_cons_self
    exact List.dropWhile_cons_of_neg hc

/-- Blanks on both sides of a text that has none are cut, and nothing else is. -/
theorem trimBlanks_append {before cs after : List Char} (hbefore : ∀ c ∈ before, isBlank c = true)
    (hafter : ∀ c ∈ after, isBlank c = true) (h : ∀ c ∈ cs, isBlank c = false) (hne : cs ≠ []) :
    trimBlanks (before ++ cs ++ after) = cs := by
  have hback : ∀ c ∈ after.reverse, isBlank c = true := fun c hc => hafter c (List.mem_reverse.1 hc)
  have hturned : ∀ c ∈ cs.reverse, isBlank c = false := fun c hc => h c (List.mem_reverse.1 hc)
  have hend := dropWhile_isBlank_append hturned (mt List.reverse_eq_nil_iff.1 hne) []
  rw [List.append_nil] at hend
  rw [trimBlanks, List.append_assoc, List.dropWhile_append_of_pos hbefore,
    dropWhile_isBlank_append h hne, List.reverse_append, List.dropWhile_append_of_pos hback, hend,
    List.reverse_reverse]

end Chronicle.Text
