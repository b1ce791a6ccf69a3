import DriveHealth.Proofs.Course
set_option autoImplicit false

/-!
What holds of every course of a procedure, whatever the drive answers and however tolerant the call is.
The condition is taken apart along the procedure, so that one lemma for each section is enough.
-/

namespace DriveHealth.Procedure

variable {Cmd Reply α β σ : Type} {P P' : Act Cmd Reply → Prop} {Q Q' : α → Prop}

/-- Whatever the replies, every act satisfies `P` and the result satisfies `Q`. -/
def always (P : Act Cmd Reply → Prop) : Procedure Cmd Reply α → (α → Prop) → Prop
  | .done a, Q => Q a
  | .say kind text next, Q => P (.said kind text) ∧ next.always P Q
  | .record w next, Q => P (.wrote w) ∧ next.always P Q
  | .ask c accepts next, Q =>
    ∀ reply, P (.sent c reply (succeeds accepts reply)) ∧ (next reply).always P Q
  | .excuse c next, Q => P (.forgiven c) ∧ P (.refused c) ∧ next.always P Q

theorem always.mono {p : Procedure Cmd Reply α} (h : p.always P Q) (hP : ∀ a, P a → P' a)
    (hQ : ∀ a, Q a → Q' a) : p.always P' Q' := by
  induction p with
  | done a => exact hQ a h
  | say kind text next ih => exact ⟨hP _ h.1, ih h.2⟩
  | record w next ih => exact ⟨hP _ h.1, ih h.2⟩
  | ask c accepts next ih => exact fun reply => ⟨hP _ (h reply).1, ih reply (h reply).2⟩
  | excuse c next ih => exact ⟨hP _ h.1, hP _ h.2.1, ih h.2.2⟩

theorem always.course {p : Procedure Cmd Reply α} (h : p.always P Q) (ch : Channel Cmd Reply σ) (s : σ)
    (t : Tolerance) :
    (∀ a ∈ (p.course ch s t).acts, P a) ∧ ∀ a, (p.course ch s t).result = some a → Q a := by
  induction p generalizing s t with
  | done a => exact ⟨by simp [Procedure.course], fun b hb => by cases hb; exact h⟩
  | say kind text next ih => simpa [Procedure.course, h.1] using ih h.2 s t
  | record w next ih => simpa [Procedure.course, h.1] using ih h.2 s t
  | ask c accepts next ih =>
    simpa [Procedure.course, (h _).1] using ih (ch.send c s).1 (h _).2 (ch.send c s).2 t
  | excuse c next ih =>
    cases ht : t.spend c with
    | some u => simpa [Procedure.course, ht, h.1] using ih h.2.2 s u
    | none => simpa [Procedure.course, ht] using h.2.1

@[simp] theorem always_pure (a : α) : always P (pure a : Procedure Cmd Reply α) Q ↔ Q a := Iff.rfl

@[simp] theorem always_bind (p : Procedure Cmd Reply β) (f : β → Procedure Cmd Reply α) :
    (p >>= f).always P Q ↔ p.always P fun b => (f b).always P Q := by
  show (p.bind f).always P Q ↔ _
  induction p with
  | done a => rfl
  | say kind text next ih => exact and_congr_right fun _ => ih
  | record w next ih => exact and_congr_right fun _ => ih
  | ask c accepts next ih => exact forall_congr' fun reply => and_congr_right fun _ => ih reply
  | excuse c next ih => exact and_congr_right fun _ => and_congr_right fun _ => ih

@[simp] theorem always_ite (c : Prop) [Decidable c] (p q : Procedure Cmd Reply α) :
    (if c then p else q).always P Q ↔ if c then p.always P Q else q.always P Q := by
  split <;> rfl

section

variable {Q : Unit → Prop}

@[simp] theorem always_print (text : String) :
    (print text : Procedure Cmd Reply Unit).always P Q ↔ P (.said .plain text) ∧ Q () := Iff.rfl

@[simp] theorem always_info (text : String) :
    (info text : Procedure Cmd Reply Unit).always P Q ↔ P (.said .info text) ∧ Q () := Iff.rfl

@[simp] theorem always_warn (text : String) :
    (warn text : Procedure Cmd Reply Unit).always P Q ↔ P (.said .warning text) ∧ Q () := Iff.rfl

@[simp] theorem always_fail (c : FailureClass) (text : String) :
    (fail c text : Procedure Cmd Reply Unit).always P Q ↔
      P (.said .error text) ∧ P (.forgiven c) ∧ P (.refused c) ∧ Q () := Iff.rfl

@[simp] theorem always_set (key : String) (value : Datum) :
    (set key value : Procedure Cmd Reply Unit).always P Q ↔ P (.wrote (.set key value)) ∧ Q () := Iff.rfl

@[simp] theorem always_setIn (key field : String) (value : Datum) :
    (setIn key field value : Procedure Cmd Reply Unit).always P Q ↔
      P (.wrote (.setIn key field value)) ∧ Q () := Iff.rfl

end

theorem always_unit {p : Procedure Cmd Reply Unit} {Q : Unit → Prop} :
    p.always P Q ↔ (p.always P fun _ => True) ∧ Q () := by
  refine ⟨fun h => ⟨h.mono (fun _ => id) fun _ _ => trivial, ?_⟩,
    fun h => h.1.mono (fun _ => id) fun _ _ => h.2⟩
  -- some path leads to the end, and any reply will do on the way
  induction p with
  | done a => exact h
  | say kind text next ih => exact ih h.2
  | record w next ih => exact ih h.2
  | ask c accepts next ih => exact ih (.error (.io "")) (h _).2
  | excuse c next ih => exact ih h.2.2

@[simp] theorem always_forM {ι : Type} {f : ι → Procedure Cmd Reply Unit} {l : List ι} :
    ((forM l f).always P fun _ => True) ↔ ∀ i ∈ l, (f i).always P fun _ => True := by
  induction l with
  | nil => simp
  | cons i l ih => rw [List.forM_cons, always_bind, always_unit, ih, List.forall_mem_cons]

@[simp high] theorem always_forM_mapIdx {ι κ : Type} {f : κ → Procedure Cmd Reply Unit} {l : List ι}
    {g : Nat → ι → κ} :
    ((forM (l.mapIdx g) f).always P fun _ => True) ↔
      ∀ i (h : i < l.length), (f (g i l[i])).always P fun _ => True := by
  rw [always_forM]
  constructor
  · intro h i hi
    exact h _ (List.mem_mapIdx.2 ⟨i, hi, rfl⟩)
  · rintro h k hk
    obtain ⟨i, hi, rfl⟩ := List.mem_mapIdx.1 hk
    exact h i hi

end DriveHealth.Procedure

namespace DriveHealth

def EndsLine (text : String) : Prop := text.toList.getLast? = some '\n'

/-- A text that begins with another letter than the lines that end a call. -/
def UnlikeRefusal (text : String) : Prop := ∃ c ∈ text.toList.head?, c ≠ 'A' ∧ c ≠ 'E'

/-- What every section of an examination keeps to: whole lines, errors that cannot be taken for a
refusal, and certain commands only. -/
def Act.Orderly {Cmd Reply : Type} (ok : Cmd → Prop) : Act Cmd Reply → Prop
  | .said kind text => EndsLine text ∧ (kind = .error → UnlikeRefusal text)
  | .sent c _ _ => ok c
  | _ => True

section

variable {Cmd Reply : Type} {ok : Cmd → Prop}

@[simp] theorem Act.orderly_said {kind : EventKind} (h : kind ≠ .error) (text : String) :
    (Act.said kind text : Act Cmd Reply).Orderly ok ↔ EndsLine text := by
  simp only [Orderly, h, false_implies, and_true]

@[simp] theorem Act.orderly_error (text : String) :
    (Act.said .error text : Act Cmd Reply).Orderly ok ↔ EndsLine text ∧ UnlikeRefusal text := by
  simp only [Orderly, true_implies]

@[simp] theorem Act.orderly_sent (c : Cmd) (reply : Except Fault Reply) (success : Bool) :
    (Act.sent c reply success).Orderly ok ↔ ok c := Iff.rfl

@[simp] theorem Act.orderly_wrote (w : Report.Write) :
    (Act.wrote w : Act Cmd Reply).Orderly ok ↔ True := Iff.rfl

@[simp] theorem Act.orderly_forgiven (c : FailureClass) :
    (Act.forgiven c : Act Cmd Reply).Orderly ok ↔ True := Iff.rfl

@[simp] theorem Act.orderly_refused (c : FailureClass) :
    (Act.refused c : Act Cmd Reply).Orderly ok ↔ True := Iff.rfl

end

@[simp] theorem toString_text (s : String) : toString s = s := rfl

/-!
Literal texts are looked at as a whole; of a text put together from pieces only its first or last piece
is, which the kernel does much faster.
-/

@[simp low] theorem endsLine_of_getLast? {text : String} (h : text.toList.getLast? = some '\n') :
    EndsLine text := h

@[simp] theorem endsLine_newline : EndsLine "\n" := rfl

@[simp] theorem endsLine_append (s : String) {t : String} (h : EndsLine t) : EndsLine (s ++ t) := by
  rw [EndsLine, String.toList_append, List.getLast?_append, h, Option.some_or]

theorem endsLine_line (s : String) : EndsLine (s ++ "\n") := endsLine_append s endsLine_newline

@[simp] theorem endsLine_ite (c : Prop) [Decidable c] (s t : String) :
    EndsLine (if c then s else t) ↔ if c then EndsLine s else EndsLine t := by
  split <;> rfl

@[simp low] theorem unlikeRefusal_of_head? {text : String}
    (h : text.toList.head?.any (fun c => c != 'A' && c != 'E') = true) : UnlikeRefusal text := by
  cases hc : text.toList.head? with
  | none => simp [hc] at h
  | some c => exact ⟨c, hc, by simpa [hc] using h⟩

@[simp] theorem unlikeRefusal_append {s : String} (t : String) (h : UnlikeRefusal s) :
    UnlikeRefusal (s ++ t) := by
  obtain ⟨c, hc, hne⟩ := h
  refine ⟨c, ?_, hne⟩
  rw [String.toList_append, List.head?_append, hc, Option.some_or]
  rfl

theorem UnlikeRefusal.ne {text : String} (h : UnlikeRefusal text) (f : FailureClass) :
    text ≠ f.refusal := by
  rintro rfl
  obtain ⟨c, hc, hA, hE⟩ := h
  cases f with
  | optional => exact hA (Option.mem_unique hc rfl)
  | mandatory => exact hE (Option.mem_unique hc rfl)

theorem Act.Orderly.refused {Cmd Reply : Type} {ok : Cmd → Prop} {a : Act Cmd Reply} (h : a.Orderly ok)
    {name : Cmd → String} {trace : Bool} {e : Event} (he : e ∈ a.events name trace)
    (hr : e.IsRefusal) : ∃ c, a = .refused c := by
  obtain ⟨c, rfl⟩ := hr
  cases a with
  | said kind text =>
    simp only [events, Event.refusal] at he
    split at he
    · simp at he
    · obtain ⟨rfl, rfl⟩ : EventKind.error = kind ∧ c.refusal = text := by simpa using he
      exact absurd rfl ((h.2 rfl).ne c)
  | sent d reply success =>
    simp only [events] at he
    split at he <;> simp [Event.refusal] at he
  | refused d => exact ⟨d, rfl⟩
  | wrote w => simp [events] at he
  | forgiven d => simp [events] at he

end DriveHealth
