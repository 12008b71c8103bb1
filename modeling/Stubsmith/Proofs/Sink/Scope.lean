import Stubsmith.Proofs.Sink.Trace
import Stubsmith.Sink.Unit

/-!
# What is done to a sink by way of a unit

As long as a unit has its stream, what is done to it is done to the sink
(`Sink.Appends.of_scoped`), and when it is dropped it is closed. Once the stream was taken the unit
can be closed and dropped without any further effect (`OutputUnit.drop_close`).
-/

namespace Stubsmith

variable {σ τ : Type}

namespace OutputUnit

variable {S : Sink σ} {s s' : σ} {unit : OutputUnit σ} {package fileName text : String}
  {fault : SinkFault} {outcome : Except SinkFault Unit}

theorem openIn_of_refused (h : S.openUnit s package fileName = (s', .error fault)) :
    openIn S s package fileName = (⟨s', false⟩, .error fault) := by
  rw [openIn, h]

theorem openIn_of_opened (h : S.openUnit s package fileName = (s', .ok ())) :
    openIn S s package fileName = (⟨s', true⟩, .ok ()) := by
  rw [openIn, h]

theorem append_of_eq (h : S.append s text = (s', outcome)) :
    append S ⟨s, true⟩ text = (⟨s', true⟩, outcome) := by
  rw [append, if_pos rfl, h]

theorem close_of_eq (h : S.close s = (s', outcome)) :
    close S ⟨s, true⟩ = (⟨s', false⟩, outcome) := by
  rw [close, if_pos rfl, h]

/-- A unit keeps its stream when it is appended to, whether or not that succeeds. -/
theorem of_append_eq (h : append S ⟨s, true⟩ text = (unit, outcome)) :
    ∃ s', unit = ⟨s', true⟩ ∧ S.append s text = (s', outcome) := by
  rw [append, if_pos rfl] at h
  injection h with hunit houtcome
  exact ⟨_, hunit.symm, Prod.ext rfl houtcome⟩

/-- Closing takes the stream away, whether or not it succeeds. -/
theorem hasStream_close (S : Sink σ) (unit : OutputUnit σ) :
    (unit.close S).1.hasStream = false := by
  rw [close]
  split
  · rfl
  · simpa using ‹¬ unit.hasStream = true›

/-- A unit without a stream can be dropped, and the sink is left alone. -/
theorem drop_of_hasStream_eq_false (h : unit.hasStream = false) :
    unit.drop S = unit.store := by
  rw [drop, h]
  rfl

/-- **A stream is closed once**: dropping a unit that was closed does not close it again. -/
theorem drop_close (S : Sink σ) (unit : OutputUnit σ) :
    (unit.close S).1.drop S = (unit.close S).1.store :=
  drop_of_hasStream_eq_false (hasStream_close S unit)

/-- A unit with another view of the sink's state. -/
def mapStore (f : τ → σ) (unit : OutputUnit τ) : OutputUnit σ :=
  ⟨f unit.store, unit.hasStream⟩

end OutputUnit

namespace Sink

variable {S : Sink σ} {T : Sink τ} {f : τ → σ}

/-- Texts that a unit takes are taken by the sink, and the unit keeps its stream. -/
theorem Appends.of_scoped {s : σ} {texts : List String} {unit : OutputUnit σ}
    (h : S.scoped.Appends ⟨s, true⟩ texts unit) :
    ∃ s', unit = ⟨s', true⟩ ∧ S.Appends s texts s' := by
  induction texts generalizing s with
  | nil =>
      cases h
      exact ⟨s, rfl, .nil s⟩
  | cons text rest ih =>
      cases h with
      | cons hfirst hrest =>
          obtain ⟨m, rfl, happend⟩ := OutputUnit.of_append_eq hfirst
          obtain ⟨s', hunit, hothers⟩ := ih hrest
          exact ⟨s', hunit, .cons happend hothers⟩

/-- Every text is handed on to the sink, whether or not one is refused. -/
theorem appendEach_scoped (S : Sink σ) (s : σ) (texts : List String) :
    S.scoped.appendEach ⟨s, true⟩ texts
      = (⟨(S.appendEach s texts).1, true⟩, (S.appendEach s texts).2) := by
  induction texts generalizing s with
  | nil => rfl
  | cons text rest ih =>
      have hfirst : S.scoped.append ⟨s, true⟩ text
          = (⟨(S.append s text).1, true⟩, (S.append s text).2) := rfl
      rw [appendEach, appendEach, hfirst]
      simp only [ih]

/-- By way of units, one sink simulates another one as it does without them. -/
theorem Simulates.openIn (h : T.Simulates S f) (t : τ) (package fileName : String) :
    OutputUnit.openIn S (f t) package fileName
      = Prod.map (OutputUnit.mapStore f) id (OutputUnit.openIn T t package fileName) := by
  rw [OutputUnit.openIn, OutputUnit.openIn, h.openUnit]
  rcases T.openUnit t package fileName with ⟨opened, fault | u⟩
  · rfl
  · rfl

theorem Simulates.scoped (h : T.Simulates S f) :
    T.scoped.Simulates S.scoped (OutputUnit.mapStore f) where
  openUnit := fun unit package fileName => h.openIn unit.store package fileName
  append := by
    rintro ⟨t, hasStream⟩ text
    cases hasStream with
    | false => rfl
    | true =>
        have happend := h.append t text
        simp only [Sink.scoped, OutputUnit.append, OutputUnit.mapStore, if_true, happend]
        rfl
  close := by
    rintro ⟨t, hasStream⟩
    cases hasStream with
    | false => rfl
    | true =>
        have hclose := h.close t
        simp only [Sink.scoped, OutputUnit.close, OutputUnit.mapStore, if_true, hclose]
        rfl

/-- A dropped unit leaves the state that the other sink is left in. -/
theorem Simulates.drop (h : T.Simulates S f) (unit : OutputUnit τ) :
    (unit.mapStore f).drop S = f (unit.drop T) := by
  rw [OutputUnit.drop, OutputUnit.drop, OutputUnit.mapStore]
  split
  · rw [Sink.drop, h.close]
    rfl
  · rfl

end Sink

end Stubsmith
