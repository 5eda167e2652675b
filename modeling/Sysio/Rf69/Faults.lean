import Sysio.Rf69.Operations

/-!
# Transfers that fail

A transfer whose failure is heard ends the operation that has made it: nothing is transferred any
more, and the operation returns its error value. The failures that are not heard are those of the
registers that are read into a `uint8_t`, and of what is called for a `bool` or for nothing.
-/

namespace Sysio.Rf69

open Routine

variable {α β : Type} {failing : Except Stop α → Prop} {failing' : Except Stop β → Prop}

/-- If the first of these transfers that fails is heard, it is the last one, and this holds. -/
def Heard (entries : List Rf69Entry) (holds : Prop) : Prop :=
  ∀ before entry after, entries = before ++ entry :: after →
    (∀ other ∈ before, other.failed = false) → entry.failed = true → entry.heard = true →
      after = [] ∧ holds

theorem heard_nil {holds : Prop} : Heard [] holds := by
  intro before entry after nothing
  exact absurd nothing.symm (List.append_ne_nil_of_right_ne_nil _ (List.cons_ne_nil _ _))

theorem Heard.weaken {entries : List Rf69Entry} {holds holds' : Prop}
    (heard : Heard entries holds) (weaker : holds → holds') : Heard entries holds' := by
  intro before entry after split first failed isHeard
  rcases heard before entry after split first failed isHeard with ⟨last, reached⟩
  exact ⟨last, weaker reached⟩

/-- What follows is empty if the first part ends at a failure. -/
theorem Heard.append {first second : List Rf69Entry} {failed_ holds : Prop}
    (heardFirst : Heard first failed_) (stops : failed_ → second = [] ∧ holds)
    (heardSecond : Heard second holds) : Heard (first ++ second) holds := by
  intro before entry after split unfailed failed isHeard
  rcases List.append_eq_append_iff.mp split with ⟨between, isBefore, isSecond⟩ |
    ⟨between, isFirst, rest⟩
  · apply heardSecond between entry after isSecond _ failed isHeard
    intro other among
    exact unfailed other (isBefore ▸ List.mem_append_right _ among)
  · cases between with
    | nil =>
        rw [List.nil_append] at rest
        exact heardSecond [] entry after rest.symm (fun _ among => absurd among List.not_mem_nil)
          failed isHeard
    | cons head between =>
        rw [List.cons_append, List.cons.injEq] at rest
        rcases rest with ⟨rfl, isAfter⟩
        rcases heardFirst before entry between isFirst unfailed failed isHeard with ⟨rfl, reached⟩
        rcases stops reached with ⟨rfl, holds⟩
        exact ⟨isAfter, holds⟩

/-- The routine ends at a failure that is heard, and tells it. -/
def Heeds (failing : Except Stop α → Prop) (m : Driver α) : Prop :=
  ∀ w, ∃ entries, (m w).2.spi = w.spi ++ entries ∧ (m w).2.muted = w.muted ∧
    (w.muted = true → ∀ entry ∈ entries, entry.heard = false) ∧
    Heard entries (failing (m w).1)

/-- A routine without transfers. -/
theorem heeds_of_silent {m : Driver α}
    (silent : ∀ w, (m w).2.spi = w.spi ∧ (m w).2.muted = w.muted) : Heeds failing m := by
  intro w
  rcases silent w with ⟨spi, muted⟩
  refine ⟨[], by rw [spi, List.append_nil], muted, fun _ _ among => ?_, heard_nil⟩
  exact absurd among List.not_mem_nil

theorem heeds_ended {outcome : Except Stop α} : Heeds failing (ended outcome : Driver α) :=
  heeds_of_silent fun _ => ⟨rfl, rfl⟩

/-- A failure of the first part ends the whole, or is its outcome. -/
theorem Heeds.bind {m : Driver α} {f : α → Driver β} (first : Heeds failing m)
    (rest : ∀ a, Heeds failing' (f a))
    (goesOn : ∀ a, failing (.ok a) → ∃ outcome, failing' outcome ∧ f a = ended outcome)
    (stops : ∀ stop, failing (.error stop) → failing' (.error stop)) :
    Heeds failing' (m >>= f) := by
  intro w
  rcases first w with ⟨entries, spi, muted, unheard, heard⟩
  rcases ran : m w with ⟨stop | a, next⟩
  · rw [ran] at spi muted heard
    rw [bind_of_error ran]
    exact ⟨entries, spi, muted, unheard, heard.weaken (stops stop)⟩
  · rw [ran] at spi muted heard
    rw [bind_of_ok ran]
    rcases rest a next with ⟨later, spiLater, mutedLater, unheardLater, heardLater⟩
    refine ⟨entries ++ later, ?_, mutedLater.trans muted, ?_, ?_⟩
    · rw [spiLater, spi, List.append_assoc]
    · intro isMuted entry among
      rcases List.mem_append.mp among with before | after
      · exact unheard isMuted entry before
      · exact unheardLater (muted.trans isMuted) entry after
    · apply heard.append _ heardLater
      intro failed
      rcases goesOn a failed with ⟨outcome, failed', isEnded⟩
      rw [isEnded] at spiLater ⊢
      exact ⟨List.append_cancel_left (spiLater.symm.trans (List.append_nil _).symm), failed'⟩

theorem Heeds.muted {m : Driver α} (heeds : Heeds failing m) : Heeds Never (muted m) := by
  intro w
  rcases heeds { w with muted := true } with ⟨entries, spi, _, unheard, _⟩
  refine ⟨entries, spi, rfl, fun _ => unheard rfl, ?_⟩
  intro before entry after split _ _ isHeard
  have silent := unheard rfl entry (split ▸ List.mem_append_right _ (List.mem_cons_self ..))
  rw [silent] at isHeard
  cases isHeard

/-- The entries are the same, and so is what is told. -/
theorem Heeds.ofSame {m : Driver α} {m' : Driver β} (heeds : Heeds failing m)
    (same : ∀ w, (m' w).2.spi = (m w).2.spi ∧ (m' w).2.muted = (m w).2.muted)
    (tells : ∀ w, failing (m w).1 → failing' (m' w).1) : Heeds failing' m' := by
  intro w
  rcases heeds w with ⟨entries, spi, muted, unheard, heard⟩
  rcases same w with ⟨sameSpi, sameMuted⟩
  exact ⟨entries, sameSpi.trans spi, sameMuted.trans muted, unheard, heard.weaken (tells w)⟩

theorem Heeds.called {isError : ℤ → Prop} {body : Driver ℤ} (heeds : Heeds (Ends isError) body) :
    Heeds (Reported isError) (called body) := by
  apply heeds.ofSame
  · intro w
    rcases ran : body w with ⟨stop | r, next⟩
    · cases stop with
      | returned r => exact ⟨by rw [called_of_returned ran], by rw [called_of_returned ran]⟩
      | stuck => exact ⟨by rw [called_of_stuck ran], by rw [called_of_stuck ran]⟩
    · exact ⟨by rw [called_of_ok ran], by rw [called_of_ok ran]⟩
  · intro w ends
    rcases ran : body w with ⟨outcome, next⟩
    rw [ran] at ends
    rcases ends with ⟨r, bad, rfl⟩ | ⟨r, bad, rfl⟩
    · exact ⟨r, bad, by rw [called_of_returned ran]⟩
    · exact ⟨r, bad, by rw [called_of_ok ran]⟩

theorem Heeds.voided {failing : Except Stop Unit → Prop} {body : Driver Unit}
    (heeds : Heeds failing body) : Heeds (fun _ => True) (voided body) := by
  apply heeds.ofSame
  · intro w
    unfold Routine.voided
    rcases body w with ⟨stop | r, next⟩
    · cases stop <;> exact ⟨rfl, rfl⟩
    · exact ⟨rfl, rfl⟩
  · exact fun _ _ => trivial

/-- A transfer that fails tells so. -/
theorem heeds_transact {transfer : Rf69Transfer} : Heeds Faulty (transact transfer) := by
  intro w
  have silent : w.muted = true → ∀ entry ∈
      [(⟨transfer, decide ((w.env w.clock).fault < 0), !w.muted⟩ : Rf69Entry)],
      entry.heard = false := by
    intro isMuted entry among
    rw [List.mem_singleton.mp among, isMuted]
    rfl
  by_cases fails : (w.env w.clock).fault < 0
  · rw [transact, if_pos fails]
    refine ⟨_, rfl, rfl, silent, ?_⟩
    intro before entry after split _ _ _
    have last : after = [] := by
      have length := congrArg List.length split
      rw [List.length_singleton, List.length_append, List.length_cons] at length
      exact List.eq_nil_of_length_eq_zero (by omega)
    exact ⟨last, _, fails, rfl⟩
  · rw [transact, if_neg fails]
    refine ⟨_, rfl, rfl, silent, ?_⟩
    intro before entry after split _ failed _
    have among : entry ∈ [(⟨transfer, decide ((w.env w.clock).fault < 0), !w.muted⟩ :
        Rf69Entry)] := by
      rw [split]
      exact List.mem_append_right _ (List.mem_cons_self ..)
    rw [List.mem_singleton.mp among] at failed
    exact absurd (of_decide_eq_true failed) fails

theorem heeds_base : Rf69Rules Heeds where
  weaken heeds weaker := fun w => by
    rcases heeds w with ⟨entries, spi, muted, unheard, heard⟩
    exact ⟨entries, spi, muted, unheard, heard.weaken (weaker _)⟩
  ended _ := heeds_ended
  bind := Heeds.bind
  called := Heeds.called
  muted := Heeds.muted
  nextAnswer := heeds_of_silent fun _ => ⟨rfl, rfl⟩
  read _ := heeds_of_silent fun _ => ⟨rfl, rfl⟩
  transact _ := heeds_transact

theorem heeds_rules : Rf69DriverRules Heeds where
  toRf69Rules := heeds_base
  setMode := heeds_base.setModeOf heeds_base.noPause (fun _ _ => heeds_transact)
    (heeds_of_silent fun _ => ⟨rfl, rfl⟩) (heeds_of_silent fun _ => ⟨rfl, rfl⟩)
  block _ := heeds_transact
  store _ := heeds_of_silent fun _ => ⟨rfl, rfl⟩
  note := heeds_of_silent fun _ => ⟨rfl, rfl⟩
  voided _ := Heeds.voided
  arrival := heeds_of_silent fun _ => ⟨rfl, rfl⟩
  restoring {isError} {m} {write} heeds _ := by
    apply heeds.ofSame
    · intro w
      rcases ran : m w with ⟨stop | r, next⟩
      · rw [bind_of_error ran]
        exact ⟨rfl, rfl⟩
      · rw [bind_of_ok ran]
        exact ⟨rfl, rfl⟩
    · intro w told
      rcases ran : m w with ⟨stop | r, next⟩
      · rw [ran] at told
        rw [bind_of_error ran]
        exact told
      · rw [ran] at told
        rw [bind_of_ok ran]
        exact told

/-! ### Every operation -/

/-- The operations, and the function that checks what it writes. -/
inductive Rf69Operation where
  | call (call : Rf69Call)
  | writeRegWithCheck (reg data : UInt8) (timeout : ℤ)

/-- The function that is called. -/
def Rf69Operation.run : Rf69Operation → Driver ℤ
  | call operation => operation.run
  | writeRegWithCheck reg data timeout => iRf69WriteRegWithCheck quiet reg data timeout

/-- What it returns for an error. -/
def Rf69Operation.IsError : Rf69Operation → ℤ → Prop
  | call operation => operation.IsError
  | writeRegWithCheck _ _ _ => Negative

/-- Every operation heeds the transfers that it looks at. -/
theorem heeds_run (operation : Rf69Operation) :
    Heeds (Reported operation.IsError) operation.run := by
  cases operation with
  | call call =>
      apply heeds_rules.call
      · rintro eBand ucNodeId ucNetId rfl
        exact heeds_rules.openOf heeds_rules.noInterrupt (fun _ _ => heeds_transact)
          fun _ => heeds_of_silent fun _ => ⟨rfl, rfl⟩
      · rintro bOn rfl
        exact heeds_rules.setHighPower heeds_rules.noPause
          (heeds_of_silent fun _ => ⟨rfl, rfl⟩)
  | writeRegWithCheck reg data timeout =>
      exact heeds_base.writeRegWithCheck heeds_base.noPause heeds_transact

end Sysio.Rf69
