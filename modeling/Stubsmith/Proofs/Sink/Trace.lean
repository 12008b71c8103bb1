import Stubsmith.Sink.Memory

/-!
# Sinks that do not fail, and the files of a trace

`Sink.NeverFails` says that every operation of a sink succeeds in every state, and `Sink.Appends`
that a sequence of texts is appended without a fault. `Sink.traced` keeps the list of operations of
any sink and changes nothing else (`Sink.traced_simulates`). The files that a trace leaves are found
by carrying out its successful operations in memory (`filesOf`).
-/

namespace Stubsmith

namespace Sink

variable {σ τ : Type} {S : Sink σ}

/-- Every operation succeeds, in whatever state. -/
structure NeverFails (S : Sink σ) : Prop where
  openUnit : ∀ s package fileName, (S.openUnit s package fileName).2 = .ok ()
  append : ∀ s text, (S.append s text).2 = .ok ()
  close : ∀ s, (S.close s).2 = .ok ()

/-- `S.Appends s texts s'` says that the texts can be appended one after another without a fault,
and that this leads from `s` to `s'`. -/
inductive Appends (S : Sink σ) : σ → List String → σ → Prop where
  | nil (s : σ) : Appends S s [] s
  | cons {s m s' : σ} {text : String} {rest : List String}
      (hfirst : S.append s text = (m, .ok ())) (hrest : Appends S m rest s') :
      Appends S s (text :: rest) s'

/-- `T` does to its state what `S` does to the part of it that `f` shows, with the same outcomes. -/
structure Simulates (T : Sink τ) (S : Sink σ) (f : τ → σ) : Prop where
  openUnit : ∀ t package fileName,
    S.openUnit (f t) package fileName = Prod.map f id (T.openUnit t package fileName)
  append : ∀ t text, S.append (f t) text = Prod.map f id (T.append t text)
  close : ∀ t, S.close (f t) = Prod.map f id (T.close t)

/-- Texts that are appended after other texts. -/
theorem Appends.append {s m s' : σ} {texts others : List String} (h : S.Appends s texts m)
    (h' : S.Appends m others s') : S.Appends s (texts ++ others) s' := by
  induction h with
  | nil s => exact h'
  | cons hfirst _ ih => exact .cons hfirst (ih h')

/-! ## Traces -/

/-- Keeping a trace does not disturb the sink. -/
theorem traced_simulates (S : Sink σ) : S.traced.Simulates S Prod.fst where
  openUnit := fun _ _ _ => rfl
  append := fun _ _ => rfl
  close := fun _ => rfl

theorem NeverFails.traced (hS : S.NeverFails) : S.traced.NeverFails where
  openUnit := fun st package fileName => hS.openUnit st.1 package fileName
  append := fun st text => hS.append st.1 text
  close := fun st => hS.close st.1

theorem trace_openUnit {st st' : σ × List SinkEvent} {package fileName : String}
    {outcome : Except SinkFault Unit}
    (h : S.traced.openUnit st package fileName = (st', outcome)) :
    st'.2 = st.2 ++ [.opened package fileName (SinkFault.isOk outcome)] := by
  injection h with hstate houtcome
  rw [← hstate, ← houtcome]

theorem trace_append {st st' : σ × List SinkEvent} {text : String}
    {outcome : Except SinkFault Unit} (h : S.traced.append st text = (st', outcome)) :
    st'.2 = st.2 ++ [.appended text (SinkFault.isOk outcome)] := by
  injection h with hstate houtcome
  rw [← hstate, ← houtcome]

theorem trace_close {st st' : σ × List SinkEvent} {outcome : Except SinkFault Unit}
    (h : S.traced.close st = (st', outcome)) :
    st'.2 = st.2 ++ [.closed (SinkFault.isOk outcome)] := by
  injection h with hstate houtcome
  rw [← hstate, ← houtcome]

/-- A dropped unit leaves one operation of closing in the trace, whatever comes of it. -/
theorem trace_drop (st : σ × List SinkEvent) :
    (S.traced.drop st).2 = st.2 ++ [.closed (SinkFault.isOk (S.close st.1).2)] := rfl

/-- Texts that are appended without a fault stand in the trace in their order. -/
theorem Appends.trace {st st' : σ × List SinkEvent} {texts : List String}
    (h : S.traced.Appends st texts st') : st'.2 = st.2 ++ texts.map (.appended · true) := by
  induction h with
  | nil st => simp
  | cons hfirst _ ih =>
      rw [ih, trace_append hfirst]
      simp [SinkFault.isOk]

end Sink

/-! ## The files that a trace leaves -/

/-- A sink in memory never fails. -/
theorem MemoryStore.sink_neverFails : MemoryStore.sink.NeverFails where
  openUnit := fun _ _ _ => rfl
  append := fun _ _ => rfl
  close := fun _ => rfl

/-- Carries out an operation in memory if it succeeded. -/
def SinkEvent.replay (m : MemoryStore) : SinkEvent → MemoryStore
  | .opened package fileName true => (MemoryStore.sink.openUnit m package fileName).1
  | .appended text true => (MemoryStore.sink.append m text).1
  | .closed true => (MemoryStore.sink.close m).1
  | _ => m

/-- The files that the successful operations of a trace leave, in the order of opening. -/
def filesOf (trace : List SinkEvent) : List MemoryUnit :=
  (trace.foldl SinkEvent.replay {}).units

/-- Appended texts are joined behind what the open unit holds. -/
theorem foldl_replay_appended (texts : List String) (finished : List MemoryUnit) (u : MemoryUnit) :
    (texts.map (SinkEvent.appended · true)).foldl SinkEvent.replay ⟨finished, some u⟩
      = ⟨finished, some { u with content := u.content ++ String.join texts }⟩ := by
  induction texts generalizing u with
  | nil => simp
  | cons text rest ih =>
      -- the rest is replayed from the unit that already holds the first text
      rw [List.map_cons, List.foldl_cons]
      refine (ih { u with content := u.content ++ text }).trans ?_
      simp [String.append_assoc]

/-- A unit that is opened, given texts and closed without a fault becomes one closed file that holds
the texts in their order. -/
theorem filesOf_unit (package fileName : String) (texts : List String) :
    filesOf (.opened package fileName true :: (texts.map (.appended · true) ++ [.closed true]))
      = [{ package, fileName, content := String.join texts, closed := true }] := by
  have hopen : SinkEvent.replay {} (.opened package fileName true)
      = ⟨[], some { package, fileName }⟩ := rfl
  rw [filesOf, List.foldl_cons, List.foldl_append, hopen, foldl_replay_appended]
  simp [SinkEvent.replay, MemoryStore.sink, MemoryStore.units]

end Stubsmith
