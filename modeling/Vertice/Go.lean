import Mathlib.Data.List.Basic

/-!
# What the model takes from Go itself

A Go function that may panic is a value of `Go α`: a panic propagates through
every caller, since no modelled code recovers. Error returns stay ordinary
values (`Except GoError` or an `Option GoError` beside the result), because the
callers test them. `strings.TrimSpace` and `len` are the standard library's:
trimming removes the Unicode `White_Space` runes of `unicode.IsSpace` at both
ends, and `len` counts UTF-8 bytes.
-/
namespace Vertice

/-- A non-nil `error`; its text is all the model keeps. -/
structure GoError where
  message : String
  deriving DecidableEq, Repr

/-- The runtime panics the modelled code can raise. -/
inductive Panic where
  /-- Indexing a slice at or past its length. -/
  | indexOutOfRange
  /-- Reading a field through a nil pointer. -/
  | nilDereference
  /-- A failed type assertion `x.(T)` on an interface value. -/
  | typeAssertion (expected : String)
  deriving DecidableEq, Repr

abbrev Go := Except Panic

/-- Dereference a pointer: a nil one panics. -/
def deref {α : Type} : Option α → Go α
  | some value => .ok value
  | none => .error .nilDereference

@[simp] theorem deref_some {α : Type} (value : α) : deref (some value) = .ok value := rfl

@[simp] theorem deref_none {α : Type} : deref (none : Option α) = .error .nilDereference := rfl

/-- `xs[i]`: indexing at or past the length panics. -/
def index {α : Type} : List α → Nat → Go α
  | [], _ => .error .indexOutOfRange
  | x :: _, 0 => .ok x
  | _ :: xs, i + 1 => index xs i

@[simp] theorem index_nil {α : Type} (i : Nat) : index ([] : List α) i = .error .indexOutOfRange := by
  cases i <;> rfl

@[simp] theorem index_cons_zero {α : Type} (x : α) (xs : List α) : index (x :: xs) 0 = .ok x := rfl

theorem index_zero_eq_ok {α : Type} {xs : List α} {value : α} :
    index xs 0 = .ok value ↔ xs.head? = some value := by
  cases xs <;> simp [eq_comm]

@[simp] theorem pure_eq_ok {α : Type} (a : α) : (pure a : Go α) = .ok a := rfl

@[simp] theorem ok_bind {α β : Type} (a : α) (f : α → Go β) : (Except.ok a : Go α) >>= f = f a := rfl

@[simp] theorem error_bind {α β : Type} (p : Panic) (f : α → Go β) :
    (Except.error p : Go α) >>= f = .error p := rfl

/-- A run of two Go computations succeeds when both do. -/
theorem bind_eq_ok {α β : Type} {x : Go α} {f : α → Go β} {value : β} :
    x >>= f = .ok value ↔ ∃ a, x = .ok a ∧ f a = .ok value := by
  cases x <;> simp [bind, Except.bind]

/-- `unicode.IsSpace`: the Latin-1 spaces, then the rest of `White_Space`. -/
def isSpace (c : Char) : Bool :=
  if c.val ≤ 0xFF then
    c.val = 0x09 || c.val = 0x0A || c.val = 0x0B || c.val = 0x0C || c.val = 0x0D ||
      c.val = 0x20 || c.val = 0x85 || c.val = 0xA0
  else
    c.val = 0x1680 || (0x2000 ≤ c.val && c.val ≤ 0x200A) || c.val = 0x2028 ||
      c.val = 0x2029 || c.val = 0x202F || c.val = 0x205F || c.val = 0x3000

/-- `strings.TrimSpace`. -/
def trimSpace (s : String) : String :=
  ⟨((s.data.dropWhile isSpace).reverse.dropWhile isSpace).reverse⟩

end Vertice
