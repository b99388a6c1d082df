import LoxForms.Reading.Descent

/-! # Calls that return in bounds

`Meets` says of a call that it returns, that it leaves the cursor neither before the index where it
began nor behind the end of the pieces, and what is true of its result or error.  There is a rule
for each way in which procedures are put together, and a description of each procedure that looks at
a single piece.
-/

namespace LoxForms.Reading.Descent

variable {α β : Type} {pieces : Pieces}

/-! ## Outcomes of calls -/

theorem call_pure (result : α) (start : Nat) :
    call (pure result) start = some (.ok result, start) := rfl

theorem call_throw (failure : ReadError) (start : Nat) :
    call (throw failure : Descent α) start = some (.error failure, start) := rfl

theorem call_ofExcept (outcome : Except ReadError α) (start : Nat) :
    call (MonadExcept.ofExcept outcome) start = some (outcome, start) := by
  cases outcome <;> rfl

theorem call_bind (first : Descent α) (next : α → Descent β) (start : Nat) :
    call (first >>= next) start =
      match call first start with
      | none => none
      | some (.ok result, place) => call (next result) place
      | some (.error failure, place) => some (.error failure, place) := by
  simp only [call, ExceptT.run_bind, StateT.run_bind]
  rcases first.run.run start with _ | ⟨outcome, place⟩
  · rfl
  · cases outcome <;> rfl

theorem call_peek (start : Nat) :
    call pieces.peek start = some (.ok (pieces.drop start).head?, start) := by
  rw [List.head?_drop]
  rfl

/-! ## Bounds -/

/-- A cursor that goes from the one index to the other goes neither back nor over the end of the
pieces. -/
structure Within (pieces : Pieces) (start final : Nat) : Prop where
  forward : start ≤ final
  inside : final ≤ max start pieces.length

theorem Within.refl (start : Nat) : Within pieces start start :=
  ⟨Nat.le_refl start, Nat.le_max_left start pieces.length⟩

theorem Within.trans {start place final : Nat} (first : Within pieces start place)
    (second : Within pieces place final) : Within pieces start final := by
  obtain ⟨forward, inside⟩ := first
  obtain ⟨further, insideStill⟩ := second
  constructor <;> omega

theorem Within.succ {start : Nat} (left : pieces.drop start ≠ []) :
    Within pieces start (start + 1) := by
  have before : start < pieces.length := by simpa using left
  constructor <;> omega

/-! ## Descriptions of calls -/

/-- The call returns in bounds, and its result and the cursor, or its error, are as described. -/
inductive Meets (pieces : Pieces) (procedure : Descent α) (start : Nat)
    (succeeds : α → Nat → Prop) (fails : ReadError → Prop) : Prop where
  | returns {result : α} {final : Nat} (called : call procedure start = some (.ok result, final))
      (within : Within pieces start final) (holds : succeeds result final)
  | raises {failure : ReadError} {final : Nat}
      (called : call procedure start = some (.error failure, final))
      (within : Within pieces start final) (holds : fails failure)

section Rules

variable {start : Nat} {succeeds : α → Nat → Prop} {fails : ReadError → Prop}

theorem Meets.pure {result : α} (holds : succeeds result start) :
    Meets pieces (pure result) start succeeds fails :=
  .returns (call_pure result start) (.refl start) holds

theorem Meets.throw {failure : ReadError} (holds : fails failure) :
    Meets pieces (throw failure) start succeeds fails :=
  .raises (call_throw failure start) (.refl start) holds

theorem Meets.bind {between : β → Nat → Prop} {first : Descent β} {next : β → Descent α}
    (meets : Meets pieces first start between fails)
    (onward : ∀ result place, Within pieces start place → between result place →
      Meets pieces (next result) place succeeds fails) :
    Meets pieces (first >>= next) start succeeds fails := by
  cases meets with
  | @returns result place called within holds =>
    cases onward result place within holds with
    | returns calledNext further holdsNext =>
      exact .returns (by rw [call_bind, called, ← calledNext]) (within.trans further) holdsNext
    | raises calledNext further holdsNext =>
      exact .raises (by rw [call_bind, called, ← calledNext]) (within.trans further) holdsNext
  | raises called within holds => exact .raises (by rw [call_bind, called]) within holds

theorem Meets.mono {procedure : Descent α} {weaker : α → Nat → Prop} {others : ReadError → Prop}
    (meets : Meets pieces procedure start succeeds fails)
    (result : ∀ result final, Within pieces start final → succeeds result final →
      weaker result final)
    (error : ∀ failure, fails failure → others failure) :
    Meets pieces procedure start weaker others := by
  cases meets with
  | returns called within holds => exact .returns called within (result _ _ within holds)
  | raises called within holds => exact .raises called within (error _ holds)

theorem Meets.mono_error {procedure : Descent α} {others : ReadError → Prop}
    (meets : Meets pieces procedure start succeeds fails)
    (error : ∀ failure, fails failure → others failure) :
    Meets pieces procedure start succeeds others :=
  meets.mono (fun _ _ _ holds => holds) error

theorem Meets.exists_outcome {procedure : Descent α}
    (meets : Meets pieces procedure start succeeds fails) :
    ∃ outcome final, call procedure start = some (outcome, final) ∧ Within pieces start final := by
  cases meets with
  | returns called within _ => exact ⟨_, _, called, within⟩
  | raises called within _ => exact ⟨_, _, called, within⟩

/-- There is one outcome of a call, so the description is one of every outcome. -/
theorem Meets.of_call {procedure : Descent α} {outcome : Except ReadError α} {final : Nat}
    (meets : Meets pieces procedure start succeeds fails)
    (called : call procedure start = some (outcome, final)) :
    Within pieces start final ∧ ((∃ result, outcome = .ok result ∧ succeeds result final) ∨
      ∃ failure, outcome = .error failure ∧ fails failure) := by
  cases meets with
  | returns calledAgain within holds =>
    rw [called] at calledAgain
    cases calledAgain
    exact ⟨within, .inl ⟨_, rfl, holds⟩⟩
  | raises calledAgain within holds =>
    rw [called] at calledAgain
    cases calledAgain
    exact ⟨within, .inr ⟨_, rfl, holds⟩⟩

end Rules

/-! ## Single pieces -/

theorem meets_peek {fails : ReadError → Prop} (start : Nat) :
    Meets pieces pieces.peek start
      (fun next final => final = start ∧ next = (pieces.drop start).head?) fails :=
  .returns (call_peek start) (.refl start) ⟨rfl, rfl⟩

theorem meets_advance (start : Nat) :
    Meets pieces pieces.advance start
      (fun located final => start < final ∧ pieces.drop start = located :: pieces.drop final)
      (fun failure => failure = .prematureTermination ∧ pieces.drop start = []) := by
  cases left : pieces.drop start with
  | nil =>
    have called : call pieces.advance start = some (.error .prematureTermination, start) := by
      rw [Pieces.advance, call_bind, call_peek, left]
      rfl
    exact .raises called (.refl start) ⟨rfl, rfl⟩
  | cons located rest =>
    have called : call pieces.advance start = some (.ok located, start + 1) := by
      rw [Pieces.advance, call_bind, call_peek, left]
      rfl
    refine .returns called (.succ (by simp [left])) ⟨Nat.lt_succ_self start, ?_⟩
    rw [← List.tail_drop, left, List.tail_cons]

theorem meets_take (check : LocatedPiece → Except ReadError α) (start : Nat) :
    Meets pieces (pieces.take check) start
      (fun result final => start < final ∧
        ∃ located, pieces.drop start = located :: pieces.drop final ∧ check located = .ok result)
      (fun failure => (failure = .prematureTermination ∧ pieces.drop start = []) ∨
        ∃ located rest, pieces.drop start = located :: rest ∧ check located = .error failure) := by
  apply Meets.bind ((meets_advance start).mono_error fun _ atEnd => .inl atEnd)
  rintro located place - ⟨moved, left⟩
  cases checked : check located with
  | ok result => exact .returns (call_ofExcept _ _) (.refl place) ⟨moved, located, left, checked⟩
  | error failure =>
    exact .raises (call_ofExcept _ _) (.refl place) (.inr ⟨located, _, left, checked⟩)

end LoxForms.Reading.Descent
