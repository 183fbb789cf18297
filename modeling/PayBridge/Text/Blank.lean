/-! Blank characters and trimming. Blank is the property White_Space, so a no-break space is trimmed
and a zero-width space is not. Trimming never looks inside a text. -/
namespace PayBridge.Text

/-- The property White_Space, all 25 characters of it. -/
def isBlank (c : Char) : Bool :=
  let n := c.toNat
  (9 ≤ n && n ≤ 13) || n == 0x20 || n == 0x85 || n == 0xA0 || n == 0x1680 ||
    (0x2000 ≤ n && n ≤ 0x200A) || n == 0x2028 || n == 0x2029 || n == 0x202F || n == 0x205F ||
    n == 0x3000

def trimStart (s : List Char) : List Char := s.dropWhile isBlank

def trimEnd (s : List Char) : List Char := (s.reverse.dropWhile isBlank).reverse

def trim (s : List Char) : List Char := trimEnd (trimStart s)

def trimmed (s : String) : String := String.ofList (trim s.toList)

/-- A text of blanks alone, the empty one included. -/
def isBlankText (s : List Char) : Bool := s.all isBlank

/-- A text without blanks is trimmed to itself. -/
theorem trim_of_no_blank {s : List Char} (unblank : ∀ c ∈ s, isBlank c = false) : trim s = s := by
  have kept : ∀ t : List Char, (∀ c ∈ t, isBlank c = false) → t.dropWhile isBlank = t := by
    intro t unblank
    cases t with
    | nil => rfl
    | cons c rest => rw [List.dropWhile_cons_of_neg (by simp [unblank c List.mem_cons_self])]
  rw [trim, trimStart, kept s unblank, trimEnd, kept s.reverse (fun c member => unblank c (List.mem_reverse.mp member)),
    List.reverse_reverse]

end PayBridge.Text
