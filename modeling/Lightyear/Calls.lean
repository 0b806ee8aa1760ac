import Mathlib.Tactic

/-!
Calls of methods on a mutable state. A call returns a value, returns an error with the
state as it is by then, or panics. What a call does to the state is followed through its
statements (`Moves`): a panic ends the program, so nothing is asked of it.
-/
namespace Calls

/-- Why a program was aborted. -/
inductive Panic where
  | Overflow
  | Index
  | Expect
  | Unreachable
deriving DecidableEq, Repr

inductive Failure (ε : Type) where
  | Err (error : ε)
  | Panic (panic : Panic)
deriving DecidableEq, Repr

variable {ε S α β : Type}

/-- A fallible function without a state. -/
abbrev Fallible (ε α : Type) := Except (Failure ε) α

/-- The `From` conversion of `?`. A panic is no value to convert. -/
def Failure.map {ε' : Type} (convert : ε → ε') : Failure ε → Failure ε'
  | .Err error => .Err (convert error)
  | .Panic panic => .Panic panic

/-- A function whose errors are converted. -/
def from_error {ε' : Type} (convert : ε → ε') (result : Fallible ε α) : Fallible ε' α :=
  result.mapError (Failure.map convert)

/-- A function that cannot panic. -/
def returned (result : Except ε α) : Fallible ε α := result.mapError .Err

@[simp] theorem ok_bind (a : α) (next : α → Fallible ε β) : ((.ok a : Fallible ε α) >>= next) = next a := rfl

theorem bind_eq_ok {result : Fallible ε α} {next : α → Fallible ε β} {b : β} :
    result >>= next = .ok b ↔ ∃ a, result = .ok a ∧ next a = .ok b := by
  cases result with
  | ok a => simp
  | error failure => simp [Bind.bind,Except.bind]

theorem bind_eq_panic {result : Fallible ε α} {next : α → Fallible ε β} {panic : Panic} :
    result >>= next = .error (.Panic panic) ↔
      result = .error (.Panic panic) ∨ ∃ a, result = .ok a ∧ next a = .error (.Panic panic) := by
  cases result with
  | ok a => simp
  | error failure => simp [Bind.bind,Except.bind]

@[simp] theorem from_error_ok {ε' : Type} (convert : ε → ε') (a : α) :
    from_error convert (.ok a : Fallible ε α) = .ok a := rfl

@[simp] theorem returned_ok (a : α) : returned (.ok a : Except ε α) = .ok a := rfl

/-- `return Err(..)` unless a condition holds. -/
def require (condition : Bool) (error : ε) : Fallible ε Unit :=
  if condition then .ok () else .error (.Err error)

theorem require_ok {condition : Bool} {error : ε} {a : Unit} (passed : require condition error = .ok a) :
    condition = true := by
  unfold require at passed
  split at passed
  · assumption
  · cases passed

theorem require_ne_panic {condition : Bool} {error : ε} {panic : Panic} :
    require condition error ≠ .error (.Panic panic) := by
  unfold require
  split <;> simp

theorem from_error_eq_ok {ε' : Type} {convert : ε → ε'} {result : Fallible ε α} {a : α} :
    from_error convert result = .ok a ↔ result = .ok a := by
  cases result <;> simp [from_error,Except.mapError]

theorem returned_eq_ok {result : Except ε α} {a : α} : returned result = .ok a ↔ result = .ok a := by
  cases result <;> simp [returned,Except.mapError]

theorem from_error_eq_panic {ε' : Type} {convert : ε → ε'} {result : Fallible ε α} {panic : Panic} :
    from_error convert result = .error (.Panic panic) ↔ result = .error (.Panic panic) := by
  cases result with
  | ok a => simp [from_error,Except.mapError]
  | error failure => cases failure <;> simp [from_error,Except.mapError,Failure.map]

theorem returned_ne_panic {result : Except ε α} {panic : Panic} : returned result ≠ .error (.Panic panic) := by
  cases result <;> simp [returned,Except.mapError]

/-- `+` on `u64`, as it is compiled with overflow checks. -/
def checked_add (a b : UInt64) : Fallible ε UInt64 :=
  if a.toNat + b.toNat < 2 ^ 64 then .ok (a + b) else .error (.Panic .Overflow)

/-- `<<` on `u8`. -/
def shift_left (a amount : UInt8) : Fallible ε UInt8 :=
  if amount.toNat < 8 then .ok (a <<< amount) else .error (.Panic .Overflow)

theorem checked_add_eq_ok {a b c : UInt64} :
    (checked_add a b : Fallible ε UInt64) = .ok c ↔ a.toNat + b.toNat < 2 ^ 64 ∧ c = a + b := by
  unfold checked_add
  split
  · next fits => exact ⟨fun ok => ⟨fits,(Except.ok.inj ok).symm⟩,fun ⟨_,same⟩ => same ▸ rfl⟩
  · next overflows => exact ⟨fun ok => (nomatch ok),fun ⟨fits,_⟩ => absurd fits overflows⟩

theorem checked_add_ok {a b c : UInt64} (ok : (checked_add a b : Fallible ε UInt64) = .ok c) :
    c.toNat = a.toNat + b.toNat := by
  obtain ⟨fits,rfl⟩ := checked_add_eq_ok.mp ok
  rw [UInt64.toNat_add,Nat.mod_eq_of_lt fits]

theorem checked_add_ne_err {a b : UInt64} {error : ε} : checked_add a b ≠ .error (.Err error) := by
  unfold checked_add
  split <;> simp

theorem checked_add_panic {a b : UInt64} {panic : Panic}
    (panicked : (checked_add a b : Fallible ε UInt64) = .error (.Panic panic)) : panic = .Overflow := by
  unfold checked_add at panicked
  split at panicked
  · cases panicked
  · cases panicked
    rfl

/-- A method on a mutable state. Errors do not undo what was done. -/
abbrev Call (ε S α : Type) := EStateM (Failure ε) S α

/-- A function that does not touch the state. -/
def lift (result : Fallible ε α) : Call ε S α := fun s =>
  match result with
  | .ok a => .ok a s
  | .error failure => .error failure s

@[simp] theorem lift_ok (a : α) : (lift (.ok a) : Call ε S α) = pure a := rfl

@[simp] theorem lift_error (failure : Failure ε) : (lift (.error failure) : Call ε S α) = throw failure := rfl

/-! ### What a call returns and does to the state -/

theorem bind_ok {first : Call ε S α} {next : α → Call ε S β} {s s' : S} {b : β} :
    (first >>= next) s = .ok b s' ↔ ∃ a middle, first s = .ok a middle ∧ next a middle = .ok b s' := by
  change EStateM.bind first next s = _ ↔ _
  unfold EStateM.bind
  cases first s with
  | ok a middle => simp
  | error failure middle => simp

theorem bind_error {first : Call ε S α} {next : α → Call ε S β} {s s' : S} {failure : Failure ε} :
    (first >>= next) s = .error failure s' ↔
      first s = .error failure s' ∨ ∃ a middle, first s = .ok a middle ∧ next a middle = .error failure s' := by
  change EStateM.bind first next s = _ ↔ _
  unfold EStateM.bind
  cases first s with
  | ok a middle => simp
  | error failure middle => simp

/-- A call that is known to return. -/
theorem bind_of_ok {first : Call ε S α} {next : α → Call ε S β} {s middle : S} {a : α}
    (returned : first s = .ok a middle) :
    (first >>= next) s = next a middle := by
  change EStateM.bind first next s = _
  rw [EStateM.bind,returned]

/-- A call that is known to fail. -/
theorem bind_of_error {first : Call ε S α} {next : α → Call ε S β} {s middle : S} {failure : Failure ε}
    (failed : first s = .error failure middle) : (first >>= next) s = .error failure middle := by
  change EStateM.bind first next s = _
  rw [EStateM.bind,failed]

@[simp] theorem lift_apply (result : Fallible ε α) (s : S) :
    (lift result : Call ε S α) s = match result with
      | .ok a => .ok a s
      | .error failure => .error failure s := rfl

theorem lift_eq_ok {result : Fallible ε α} {s s' : S} {a : α} :
    (lift result : Call ε S α) s = .ok a s' ↔ result = .ok a ∧ s' = s := by
  cases result <;> simp [eq_comm]

theorem lift_eq_error {result : Fallible ε α} {s s' : S} {failure : Failure ε} :
    (lift result : Call ε S α) s = .error failure s' ↔ result = .error failure ∧ s' = s := by
  cases result <;> simp [eq_comm]

/-- The state that a call leaves, if it does not panic. -/
def after (call : Call ε S α) (s : S) : Option S :=
  match call s with
  | .ok _ s' => some s'
  | .error (.Err _) s' => some s'
  | .error (.Panic _) _ => none

variable {T : S → S → Prop}

/-- However a call ended, short of a panic, the states before and after it are related. -/
def Ends (T : S → S → Prop) (s : S) : EStateM.Result (Failure ε) S α → Prop
  | .ok _ s' => T s s'
  | .error (.Err _) s' => T s s'
  | .error (.Panic _) _ => True

def Moves (T : S → S → Prop) (call : Call ε S α) (s : S) : Prop := Ends T s (call s)

theorem Moves.ok {call : Call ε S α} {s s' : S} {a : α} (moves : Moves T call s) (returned : call s = .ok a s') :
    T s s' := by
  unfold Moves at moves
  rw [returned] at moves
  exact moves

theorem Moves.err {call : Call ε S α} {s s' : S} {error : ε} (moves : Moves T call s)
    (failed : call s = .error (.Err error) s') : T s s' := by
  unfold Moves at moves
  rw [failed] at moves
  exact moves

theorem Moves.after {call : Call ε S α} {s s' : S} (moves : Moves T call s) (ended : after call s = some s') :
    T s s' := by
  unfold Moves at moves
  unfold Calls.after at ended
  split at ended
  · next returned => cases ended; rwa [returned] at moves
  · next failed => cases ended; rwa [failed] at moves
  · cases ended

theorem Moves.intro {call : Call ε S α} {s : S} (on_ok : ∀ a s', call s = .ok a s' → T s s')
    (on_error : ∀ error s', call s = .error (.Err error) s' → T s s') : Moves T call s := by
  unfold Moves
  match returned : call s with
  | .ok a s' => exact on_ok a s' returned
  | .error (.Err error) s' => exact on_error error s' returned
  | .error (.Panic _) _ => trivial

theorem Moves.mono {T' : S → S → Prop} {call : Call ε S α} {s : S} (weaker : ∀ s', T s s' → T' s s')
    (moves : Moves T call s) : Moves T' call s := by
  exact .intro (fun a s' returned => weaker s' (moves.ok returned))
    (fun error s' failed => weaker s' (moves.err failed))

section
variable [Std.Refl T]

theorem Moves.pure (a : α) (s : S) : Moves T (pure a : Call ε S α) s := Std.Refl.refl s

theorem Moves.throw (failure : Failure ε) (s : S) : Moves T (throw failure : Call ε S α) s := by
  cases failure with
  | Err error => exact Std.Refl.refl s
  | Panic panic => trivial

theorem Moves.lift (result : Fallible ε α) (s : S) : Moves T (lift result : Call ε S α) s := by
  cases result with
  | ok a => exact Moves.pure a s
  | error failure => exact Moves.throw failure s

end

theorem Moves.modify {f : S → S} {s : S} (related : T s (f s)) : Moves T (modify f : Call ε S PUnit) s := related

/-- What was read is known afterwards. -/
theorem Moves.get_bind {next : S → Call ε S α} {s : S} (moves : Moves T (next s) s) : Moves T (get >>= next) s :=
  moves

/-- A call that is known to return, before the rest. -/
theorem Moves.step (T' : S → S → Prop) {first : Call ε S α} {next : α → Call ε S β} {s middle : S} {a : α}
    (returned : first s = .ok a middle) (weaker : ∀ s', T' middle s' → T s s') (moves : Moves T' (next a) middle) :
    Moves T (first >>= next) s := by
  refine .intro (fun b s' ok => weaker s' ?_) (fun error s' failed => weaker s' ?_)
  · obtain ⟨_,_,first_ok,next_ok⟩ := bind_ok.mp ok
    cases returned.symm.trans first_ok
    exact moves.ok next_ok
  · rcases bind_error.mp failed with first_failed | ⟨_,_,first_ok,next_failed⟩
    · cases returned.symm.trans first_failed
    · cases returned.symm.trans first_ok
      exact moves.err next_failed

theorem Moves.then_pure {first : Call ε S α} {s : S} (moves : Moves T first s) (f : α → β) :
    Moves T (first >>= fun a => Pure.pure (f a)) s := by
  refine .intro (fun _ s' ok => ?_) (fun error s' failed => ?_)
  · obtain ⟨_,_,first_ok,same⟩ := bind_ok.mp ok
    cases same
    exact moves.ok first_ok
  · rcases bind_error.mp failed with first_failed | ⟨_,_,_,next_failed⟩
    · exact moves.err first_failed
    · cases next_failed

/-- A function that does not touch the state, before the rest. -/
theorem Moves.lift_bind {result : Fallible ε α} {next : α → Call ε S β} {s : S} (unchanged : T s s)
    (moves : ∀ a, result = .ok a → Moves T (next a) s) : Moves T (Calls.lift result >>= next) s := by
  cases result with
  | ok a => exact moves a rfl
  | error failure =>
    cases failure with
    | Err error => exact unchanged
    | Panic panic => trivial

/-- Two calls one after the other, of which the first may end the whole. -/
theorem Moves.seq (T₁ T₂ : S → S → Prop) {first : Call ε S α} {next : α → Call ε S β} {s : S}
    (ends : ∀ s', T₁ s s' → T s s') (combine : ∀ middle s', T₁ s middle → T₂ middle s' → T s s')
    (moves : Moves T₁ first s) (then_moves : ∀ a s', first s = .ok a s' → Moves T₂ (next a) s') :
    Moves T (first >>= next) s := by
  refine .intro (fun b s' returned => ?_) (fun error s' failed => ?_)
  · obtain ⟨a,middle,first_ok,next_ok⟩ := bind_ok.mp returned
    exact combine middle s' (moves.ok first_ok) ((then_moves a middle first_ok).ok next_ok)
  · rcases bind_error.mp failed with first_failed | ⟨a,middle,first_ok,next_failed⟩
    · exact ends s' (moves.err first_failed)
    · exact combine middle s' (moves.ok first_ok) ((then_moves a middle first_ok).err next_failed)

section
variable [IsTrans S T]

theorem Moves.bind {first : Call ε S α} {next : α → Call ε S β} {s : S} (moves : Moves T first s)
    (then_moves : ∀ a s', first s = .ok a s' → Moves T (next a) s') : Moves T (first >>= next) s :=
  Moves.seq T T (fun _ ends => ends) (fun middle s' => IsTrans.trans s middle s') moves then_moves

/-- A loop over a list, whose body can rely on the members only. -/
theorem Moves.forM [Std.Refl T] {items : List α} {body : α → Call ε S PUnit}
    (moves : ∀ item ∈ items, ∀ s, Moves T (body item) s) (s : S) : Moves T (items.forM body) s := by
  induction items generalizing s with
  | nil => exact Moves.pure PUnit.unit s
  | cons item items ih =>
    refine (moves item List.mem_cons_self s).bind ?_
    intro _ s' _
    exact ih (fun other member => moves other (List.mem_cons_of_mem item member)) s'

end

/-- A call whose errors are dropped, as `let _ = ..` does. -/
def ignore (call : Call ε S α) : Call ε S PUnit := fun s =>
  match call s with
  | .ok _ s' => .ok ⟨⟩ s'
  | .error (.Err _) s' => .ok ⟨⟩ s'
  | .error (.Panic panic) s' => .error (.Panic panic) s'

theorem Moves.ignore {call : Call ε S α} {s : S} (moves : Moves T call s) : Moves T (ignore call) s := by
  unfold Moves Calls.ignore at *
  match returned : call s with
  | .ok _ s' => rw [returned] at moves; exact moves
  | .error (.Err _) s' => rw [returned] at moves; exact moves
  | .error (.Panic _) s' => trivial

theorem ignore_ne_err {call : Call ε S α} {s s' : S} {error : ε} : ignore call s ≠ .error (.Err error) s' := by
  unfold Calls.ignore
  split <;> simp

/-- A loop whose body returns no error returns none. -/
theorem forM_ne_err {items : List α} {body : α → Call ε S PUnit}
    (never : ∀ item s s' error, body item s ≠ .error (.Err error) s') (s s' : S) (error : ε) :
    items.forM body s ≠ .error (.Err error) s' := by
  induction items generalizing s with
  | nil => exact fun failed => (nomatch failed)
  | cons item items ih =>
    intro failed
    rcases bind_error.mp failed with failed | ⟨_,middle,_,failed⟩
    · exact never item s s' error failed
    · exact ih middle failed

/-- Whatever the state is, a call does not end in a panic. -/
def Avoids (panic : Panic) (call : Call ε S α) : Prop := ∀ s s', call s ≠ .error (.Panic panic) s'

variable {panic : Panic}

theorem Avoids.pure (a : α) : Avoids panic (pure a : Call ε S α) := fun _ _ failed => (nomatch failed)

theorem Avoids.throw {failure : Failure ε} (other : failure ≠ .Panic panic) :
    Avoids panic (throw failure : Call ε S α) := by
  intro s s' failed
  injection failed with same _
  exact other same

theorem Avoids.modify (f : S → S) : Avoids panic (modify f : Call ε S PUnit) := fun _ _ failed => (nomatch failed)

theorem Avoids.lift {result : Fallible ε α} (never : result ≠ .error (.Panic panic)) :
    Avoids panic (lift result : Call ε S α) :=
  fun _ _ failed => never (lift_eq_error.mp failed).1

theorem Avoids.bind {first : Call ε S α} {next : α → Call ε S β} (avoids : Avoids panic first)
    (then_avoids : ∀ a, Avoids panic (next a)) : Avoids panic (first >>= next) := by
  intro s s' failed
  rcases bind_error.mp failed with failed | ⟨a,middle,_,failed⟩
  · exact avoids s s' failed
  · exact then_avoids a middle s' failed

/-- The state that is read can be any. -/
theorem Avoids.get_bind {next : S → Call ε S α} (avoids : ∀ s, Avoids panic (next s)) : Avoids panic (get >>= next) :=
  fun s s' failed => avoids s s s' failed

end Calls
