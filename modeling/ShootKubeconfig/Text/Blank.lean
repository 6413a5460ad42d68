namespace ShootKubeconfig.Text

/-- The characters with the Unicode property `White_Space`. -/
def isBlank (c : Char) : Bool :=
  let n := c.toNat
  (0x09 ≤ n && n ≤ 0x0D) || n == 0x20 || n == 0x85 || n == 0xA0 || n == 0x1680 ||
    (0x2000 ≤ n && n ≤ 0x200A) || n == 0x2028 || n == 0x2029 || n == 0x202F ||
    n == 0x205F || n == 0x3000

def trimBlankStart (text : List Char) : List Char :=
  text.dropWhile isBlank

def trimBlankEnd (text : List Char) : List Char :=
  (text.reverse.dropWhile isBlank).reverse

def trimBlank (text : List Char) : List Char :=
  trimBlankEnd (trimBlankStart text)

@[simp] theorem trimBlank_nil : trimBlank [] = [] := rfl

theorem trimBlankStart_eq_trimBlank_append (text : List Char) :
    trimBlankStart text =
      trimBlank text ++ ((trimBlankStart text).reverse.takeWhile isBlank).reverse := by
  rw [trimBlank, trimBlankEnd, ← List.reverse_append, List.takeWhile_append_dropWhile,
    List.reverse_reverse]

private theorem not_isBlank_head {text : List Char} {c : Char}
    (first : (text.dropWhile isBlank).head? = some c) : isBlank c = false := by
  have stopped := List.head?_dropWhile_not isBlank text
  rw [first] at stopped
  exact stopped

/-- One text is the other without all the blanks at either end. -/
structure Trims (text trimmed : List Char) : Prop where
  blanks : ∃ front back, text = front ++ (trimmed ++ back) ∧
    front.all isBlank = true ∧ back.all isBlank = true
  starts : ∀ c, trimmed.head? = some c → isBlank c = false
  ends : ∀ c, trimmed.getLast? = some c → isBlank c = false

theorem trims_trimBlank (text : List Char) : Trims text (trimBlank text) where
  blanks := by
    refine ⟨text.takeWhile isBlank, ((trimBlankStart text).reverse.takeWhile isBlank).reverse,
      ?_, List.all_takeWhile, ?_⟩
    · rw [← trimBlankStart_eq_trimBlank_append]
      exact List.takeWhile_append_dropWhile.symm
    · rw [List.all_reverse]
      exact List.all_takeWhile
  starts := by
    intro c first
    have firstOfRest : (trimBlankStart text).head? = some c := by
      rw [trimBlankStart_eq_trimBlank_append, List.head?_append, first]
      rfl
    exact not_isBlank_head firstOfRest
  ends := by
    intro c last
    rw [trimBlank, trimBlankEnd, List.getLast?_reverse] at last
    exact not_isBlank_head last

def withoutBlanks (text : List Char) : List Char :=
  text.filter fun c => !isBlank c

end ShootKubeconfig.Text
