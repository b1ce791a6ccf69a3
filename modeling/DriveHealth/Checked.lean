set_option autoImplicit false

/-!
Computing as a checked build does. An index or a slice that leaves its list, an operation whose result
does not fit its word, and a loop that does not end are traps: they stop the whole program.
-/

namespace DriveHealth

inductive Trap where
  | outOfBounds
  | overflow
  | endless
  deriving DecidableEq, Repr

abbrev Checked (α : Type) := Except Trap α

namespace Checked

variable {α β : Type}

def index (xs : List α) (i : Nat) : Checked α :=
  match xs[i]? with
  | some x => .ok x
  | none => .error .outOfBounds

def slice (xs : List α) (start stop : Nat) : Checked (List α) :=
  if start ≤ stop ∧ stop ≤ xs.length then .ok ((xs.drop start).take (stop - start))
  else .error .outOfBounds

/-- A result that has to fit a word of `width` bits. -/
def fit (width n : Nat) : Checked Nat := if n < 1 <<< width then .ok n else .error .overflow

def add (width a b : Nat) : Checked Nat := fit width (a + b)

def mul (width a b : Nat) : Checked Nat := fit width (a * b)

def sub (a b : Nat) : Checked Nat := if b ≤ a then .ok (a - b) else .error .overflow

def subSigned (width : Nat) (a b : Int) : Checked Int :=
  let half : Nat := 1 <<< (width - 1)
  if -half ≤ a - b ∧ a - b < half then .ok (a - b) else .error .overflow

def rem (a b : Nat) : Checked Nat := if b = 0 then .error .overflow else .ok (a % b)

/-- A shift may lose bits, but not be as wide as the word. -/
def shl (width a k : Nat) : Checked Nat :=
  if k < width then .ok ((a <<< k) % (1 <<< width)) else .error .overflow

def shr (width a k : Nat) : Checked Nat := if k < width then .ok (a >>> k) else .error .overflow

def collect (keep : α → Checked Bool) (f : α → Checked β) : List α → Checked (List β)
  | [] => .ok []
  | a :: as => do
    if ← keep a then return (← f a) :: (← collect keep f as)
    else collect keep f as

def loop {σ : Type} (step : σ → Checked (σ ⊕ β)) : Nat → σ → Checked β
  | 0, _ => .error .endless
  | k + 1, s => do
    match ← step s with
    | .inl s => loop step k s
    | .inr b => return b

@[simp] theorem ok_bind (a : α) (f : α → Checked β) : ((.ok a : Checked α) >>= f) = f a := rfl

@[simp] theorem pure_eq_ok (a : α) : (pure a : Checked α) = .ok a := rfl

@[simp] theorem map_ok (f : α → β) (a : α) : (f <$> (.ok a : Checked α)) = .ok (f a) := rfl

theorem index_ok {xs : List α} {i : Nat} (h : i < xs.length) : index xs i = .ok xs[i] := by
  simp [index, h]

theorem slice_ok {xs : List α} {start stop : Nat} (h : start ≤ stop) (hs : stop ≤ xs.length) :
    slice xs start stop = .ok ((xs.drop start).take (stop - start)) := by
  simp [slice, h, hs]

theorem add_ok {width a b : Nat} (h : a + b < 1 <<< width) : add width a b = .ok (a + b) := by
  simp [add, fit, h]

theorem mul_ok {width a b : Nat} (h : a * b < 1 <<< width) : mul width a b = .ok (a * b) := by
  simp [mul, fit, h]

theorem sub_ok {a b : Nat} (h : b ≤ a) : sub a b = .ok (a - b) := by simp [sub, h]

theorem subSigned_ok {width : Nat} {a b : Int} (h : -((1 <<< (width - 1) : Nat) : Int) ≤ a - b)
    (h' : a - b < ((1 <<< (width - 1) : Nat) : Int)) : subSigned width a b = .ok (a - b) :=
  if_pos ⟨h, h'⟩

theorem rem_ok {a b : Nat} (h : 0 < b) : rem a b = .ok (a % b) := by
  simp [rem, Nat.ne_of_gt h]

theorem shl_ok {width a k : Nat} (h : k < width) :
    shl width a k = .ok ((a <<< k) % (1 <<< width)) := by simp [shl, h]

theorem shr_ok {width a k : Nat} (h : k < width) : shr width a k = .ok (a >>> k) := by simp [shr, h]

theorem mapM_ok {f : α → Checked β} {g : α → β} {as : List α} (h : ∀ a ∈ as, f a = .ok (g a)) :
    as.mapM f = .ok (as.map g) := by
  induction as with
  | nil => rfl
  | cons a as ih =>
    have ha := h a (by simp)
    have has := ih fun b hb => h b (by simp [hb])
    simp [List.mapM_cons, ha, has]

theorem collect_ok {keep : α → Checked Bool} {f : α → Checked β} {p : α → Bool} {g : α → β}
    {as : List α} (hk : ∀ a ∈ as, keep a = .ok (p a)) (hf : ∀ a ∈ as, f a = .ok (g a)) :
    collect keep f as = .ok ((as.filter p).map g) := by
  induction as with
  | nil => rfl
  | cons a as ih =>
    have ha := hk a (by simp)
    have hfa := hf a (by simp)
    have has := ih (fun b hb => hk b (by simp [hb])) fun b hb => hf b (by simp [hb])
    cases hp : p a <;> simp [collect, ha, hfa, has, hp]

theorem collect_map {γ : Type} (keep : β → Checked Bool) (f : β → Checked γ) (g : α → β) (as : List α) :
    collect keep f (as.map g) = collect (fun a => keep (g a)) (fun a => f (g a)) as := by
  induction as with
  | nil => rfl
  | cons a as ih => simp only [List.map_cons, collect, ih]

/-- A loop ends with what was to come of its first state, if each step keeps that and an invariant and
brings down a measure. -/
theorem loop_ok {σ : Type} {step : σ → Checked (σ ⊕ β)} (inv : σ → Prop) (measure : σ → Nat)
    (spec : σ → β)
    (h : ∀ s, inv s → step s = .ok (.inr (spec s)) ∨
      ∃ s', step s = .ok (.inl s') ∧ inv s' ∧ measure s' < measure s ∧ spec s' = spec s)
    {k : Nat} {s : σ} (hs : inv s) (hk : measure s < k) : loop step k s = .ok (spec s) := by
  induction k generalizing s with
  | zero => omega
  | succ k ih =>
    obtain hlast | ⟨s', hstep, hs', hlt, hspec⟩ := h s hs
    · simp [loop, hlast]
    · have hrest := ih hs' (by omega)
      simp [loop, hstep, hrest, hspec]

end Checked

end DriveHealth
