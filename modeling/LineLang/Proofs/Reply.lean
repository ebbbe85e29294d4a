import LineLang.Failure

/-!
# Replies that are related

Two operations do the same to two states if they end with the same result and leave states that are
related. `Related` says so of their replies, for whatever relation between states. It is kept by
everything that replies are put together with, so a relation has to be looked at for the single
operations only.
-/

namespace LineLang

namespace Reply

variable {σ τ σ' τ' α β : Type} {R : σ → τ → Prop} {s : σ} {t : τ}

/-- Two replies with one result, whose states are related. -/
structure Related (R : σ → τ → Prop) (r : Reply σ α) (q : Reply τ α) : Prop where
  result : r.result = q.result
  state : R r.state q.state

theorem Related.exists_eq {r : Reply σ α} {q : Reply τ α} (h : Related R r q) :
    ∃ s t result, R s t ∧ r = ⟨s, result⟩ ∧ q = ⟨t, result⟩ :=
  ⟨r.state, q.state, r.result, h.state, rfl, by rw [h.result]⟩

/-- Where one state is made from the other, one reply is. -/
theorem related_image_iff {f : σ → τ} {r : Reply σ α} {q : Reply τ α} :
    Related (fun s t => t = f s) r q ↔ q = r.mapState f := by
  constructor
  · intro h
    obtain ⟨s, _, result, rfl, rfl, rfl⟩ := h.exists_eq
    rfl
  · rintro rfl
    exact ⟨rfl, rfl⟩

namespace Related

theorem ofExcept {x : Except Failure σ} {y : Except Failure τ} (states : R s t)
    (same : (∃ f, x = .error f ∧ y = .error f) ∨
      ∃ s' t', x = .ok s' ∧ y = .ok t' ∧ R s' t') :
    Related R (.ofExcept s x) (.ofExcept t y) := by
  obtain ⟨f, rfl, rfl⟩ | ⟨s', t', rfl, rfl, changed⟩ := same
  · exact ⟨rfl, states⟩
  · exact ⟨rfl, changed⟩

theorem mapState {R' : σ' → τ' → Prop} {f : σ → σ'} {g : τ → τ'} {r : Reply σ α} {q : Reply τ α}
    (h : Related R r q) (changed : ∀ {s t}, R s t → R' (f s) (g t)) :
    Related R' (r.mapState f) (q.mapState g) :=
  ⟨h.result, changed h.state⟩

theorem void {r : Reply σ α} {q : Reply τ α} (h : Related R r q) : Related R r.void q.void :=
  ⟨congrArg (Except.map fun _ => ()) h.result, h.state⟩

theorem andThen {r : Reply σ Unit} {q : Reply τ Unit} {next : σ → Reply σ α}
    {next' : τ → Reply τ α} (h : Related R r q)
    (later : ∀ {s t}, R s t → Related R (next s) (next' t)) :
    Related R (r.andThen next) (q.andThen next') := by
  obtain ⟨s, t, result, states, rfl, rfl⟩ := h.exists_eq
  cases result with
  | error f => exact ⟨rfl, states⟩
  | ok _ => exact later states

theorem settle {report : Fault → σ → σ} {report' : Fault → τ → τ} {r : Reply σ Unit}
    {q : Reply τ Unit} (h : Related R r q)
    (reported : ∀ {s t} f, R s t → R (report f s) (report' f t)) :
    Related R (r.settle report) (q.settle report') := by
  obtain ⟨s, t, result, states, rfl, rfl⟩ := h.exists_eq
  cases result with
  | ok _ => exact ⟨rfl, states⟩
  | error f =>
    cases f with
    | fault f => exact ⟨rfl, reported f states⟩
    | crash _ | unfinished => exact ⟨rfl, states⟩

theorem forEach {act : β → σ → Reply σ α} {act' : β → τ → Reply τ α} (states : R s t)
    (acted : ∀ {s t} b, R s t → Related R (act b s) (act' b t)) (bs : List β) :
    Related R (Reply.forEach act bs s) (Reply.forEach act' bs t) := by
  induction bs generalizing s t with
  | nil => exact ⟨rfl, states⟩
  | cons b bs ih =>
    obtain ⟨s', t', result, states', moved, moved'⟩ := (acted b states).exists_eq
    unfold Reply.forEach
    rw [moved, moved']
    cases result with
    | error f => exact ⟨rfl, states'⟩
    | ok a =>
      have rest := ih states'
      exact ⟨congrArg (Except.map (a :: ·)) rest.result, rest.state⟩

end Related

end Reply

end LineLang
