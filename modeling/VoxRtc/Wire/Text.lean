import Mathlib.Data.List.DropRight

/-!
# Trimming

The four gateways trim frame ids and types with their own language's notion of white
space. The notions agree on Unicode's `White_Space` property up to a few characters.
-/
namespace VoxRtc.Wire

/-- Unicode `White_Space`, which Rust's `str::trim` and Go's `strings.TrimSpace` use. -/
def whiteSpace (c : Char) : Bool :=
  let n := c.toNat
  9 ≤ n && n ≤ 13 || n == 0x20 || n == 0x85 || n == 0xA0 || n == 0x1680 ||
    0x2000 ≤ n && n ≤ 0x200A || n == 0x2028 || n == 0x2029 || n == 0x202F || n == 0x205F ||
    n == 0x3000

/-- ECMAScript's `WhiteSpace` and `LineTerminator`. -/
def ecmaSpace (c : Char) : Bool :=
  c.toNat == 0xFEFF || whiteSpace c && c.toNat != 0x85

/-- Python's `str.isspace`. -/
def pythonSpace (c : Char) : Bool :=
  0x1C ≤ c.toNat && c.toNat ≤ 0x1F || whiteSpace c

def trimWith (space : Char → Bool) (s : String) : String :=
  String.ofList ((s.toList.dropWhile space).rdropWhile space)

variable {space : Char → Bool} {s : String}

/-- Trimming keeps a text without white space at either end. -/
theorem trimWith_eq (front : ∀ c, s.toList.head? = some c → space c = false)
    (back : ∀ c, s.toList.getLast? = some c → space c = false) : trimWith space s = s := by
  have kept : s.toList.dropWhile space = s.toList := by
    cases chars : s.toList with
    | nil => rfl
    | cons c cs =>
      have := front c (by rw [chars]; rfl)
      simp [this]
  have ends : s.toList.rdropWhile space = s.toList := by
    rw [List.rdropWhile_eq_self_iff]
    intro nonempty
    have := back _ (List.getLast?_eq_some_getLast nonempty)
    simp [this]
  simp [trimWith, kept, ends]

end VoxRtc.Wire
