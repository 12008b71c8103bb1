import Stubsmith.Proofs.Pass.Run

/-!
# The operations of a pass on its sink

Whatever fails and whenever, a pass opens at most one unit, closes it exactly once if it was opened,
and does nothing after an append that failed but close. `IsPassTrace` describes the traces this
allows, and `runPass_protocol` shows that there are no others, when the pass has an outcome, how
many texts are appended, and what has been reported when one of them is refused.
-/

namespace Stubsmith

variable {σ : Type}

/-- Whether the operation appends, successfully or not. -/
def SinkEvent.isAppend : SinkEvent → Bool
  | .appended _ _ => true
  | _ => false

/-- The operations that a pass over the selected declarations may carry out. -/
inductive IsPassTrace (c : Configuration) (selected : List Declaration) :
    List SinkEvent → Prop where
  /-- No operation at all. -/
  | untouched : IsPassTrace c selected []
  /-- One attempt to open a unit, which failed. -/
  | notOpened : IsPassTrace c selected [.opened c.package c.fileName false]
  /-- A unit was opened, took some of the texts until one was refused, and was closed. -/
  | cutOff (taken : List String) (refused : String) (closed : Bool)
      (htexts : taken ++ [refused] <+: passTexts c selected) :
      IsPassTrace c selected (.opened c.package c.fileName true
        :: (taken.map (.appended · true) ++ [.appended refused false, .closed closed]))
  /-- A unit was opened, took all texts, of which the first is the package line, and was closed. -/
  | allTaken (closed : Bool) :
      IsPassTrace c selected (.opened c.package c.fileName true
        :: ((passTexts c selected).map (.appended · true) ++ [.closed closed]))

/-! ## Counting texts -/

theorem length_passTexts (c : Configuration) (decls : List Declaration) :
    (passTexts c decls).length = 1 + decls.countP (·.isWritten c) := by
  have hcount : (decls.filterMap (·.writtenText? c)).length = decls.countP (·.isWritten c) := by
    rw [List.length_filterMap_eq_countP]
    simp only [Declaration.isSome_writtenText?]
  rw [passTexts, List.length_cons, hcount, Nat.add_comm]

/-- A declaration with text is found again from the number of those before it. -/
theorem eq_of_countP_eq {α : Type} {f : α → Bool} {l before after before' after' : List α} {x y : α}
    (h : l = before ++ x :: after) (h' : l = before' ++ y :: after') (hx : f x = true)
    (hy : f y = true) (hcount : before.countP f = before'.countP f) : before = before' := by
  rw [h] at h'
  -- if one of the two splittings came later, it would count the element of the other one as well
  rcases List.append_eq_append_iff.mp h' with ⟨middle, hbefore, hx'⟩ | ⟨middle, hbefore, hy'⟩
  · cases middle with
    | nil => rw [hbefore, List.append_nil]
    | cons z rest =>
        injection hx' with hz _
        subst hbefore
        subst hz
        simp [hx] at hcount
  · cases middle with
    | nil => rw [hbefore, List.append_nil]
    | cons z rest =>
        injection hy' with hz _
        subst hbefore
        subst hz
        simp [hy] at hcount

/-! ## Traces of units -/

section

variable {S : Sink σ} {s : σ} {package fileName : String} {opened : σ × List SinkEvent}

/-- A unit that takes all texts and is then closed. -/
theorem trace_allTaken {appended closed : σ × List SinkEvent} {texts : List String}
    {outcome : Except SinkFault Unit}
    (hopen : S.traced.openUnit (s, []) package fileName = (opened, .ok ()))
    (happends : S.traced.Appends opened texts appended)
    (hclose : S.traced.close appended = (closed, outcome)) :
    closed.2 = .opened package fileName true
      :: (texts.map (.appended · true) ++ [.closed (SinkFault.isOk outcome)]) := by
  rw [Sink.trace_close hclose, happends.trace, Sink.trace_openUnit hopen]
  simp [SinkFault.isOk]

/-- A unit that takes some texts, refuses one and is then dropped. -/
theorem trace_cutOff {before appended : σ × List SinkEvent} {taken : List String} {refused : String}
    {fault : SinkFault}
    (hopen : S.traced.openUnit (s, []) package fileName = (opened, .ok ()))
    (htaken : S.traced.Appends opened taken before)
    (hrefused : S.traced.append before refused = (appended, .error fault)) :
    ∃ closed, (S.traced.drop appended).2 = .opened package fileName true
      :: (taken.map (.appended · true) ++ [.appended refused false, .closed closed]) := by
  refine ⟨SinkFault.isOk (S.close appended.1).2, ?_⟩
  rw [Sink.trace_drop, Sink.trace_append hrefused, htaken.trace, Sink.trace_openUnit hopen]
  simp [SinkFault.isOk]

end

/-- The only refused text of a trace stands right after those that were taken. -/
theorem index_of_refused {taken : List String} {refused text : String} {b b' : Bool} {i : Nat}
    (h : (taken.map (SinkEvent.appended · true) ++ [.appended refused b, .closed b'])[i]?
      = some (.appended text false)) : i = taken.length := by
  rcases Nat.lt_trichotomy i taken.length with hlt | heq | hgt
  · rw [List.getElem?_append_left (by simpa using hlt)] at h
    simp [List.getElem?_eq_getElem hlt] at h
  · exact heq
  · rw [List.getElem?_append_right (by simp; omega), List.length_map] at h
    obtain ⟨k, hk⟩ : ∃ k, i - taken.length = k + 1 := ⟨i - taken.length - 1, by omega⟩
    rw [hk, List.getElem?_cons_succ] at h
    cases k with
    | zero => simp at h
    | succ k => simp at h

/-- No text is refused where all are taken. -/
theorem not_refused_of_allTaken {texts : List String} {text : String} {b : Bool} {i : Nat} :
    (texts.map (SinkEvent.appended · true) ++ [.closed b])[i]? ≠ some (.appended text false) := by
  intro h
  have hmem := List.mem_of_getElem? h
  simp at hmem

/-! ## What each run of a pass leaves in the trace -/

namespace PassRun

variable {S : Sink σ} {c : Configuration} {corpus : List Declaration} {s : σ} {log : Log}
  {r : PassResult (σ × List SinkEvent)}

theorem isPassTrace (h : PassRun S.traced c corpus (s, []) log r) :
    IsPassTrace c (selection corpus c.marker) r.store.2 := by
  cases h with
  | untouched _ => exact .untouched
  | openingFails _ hopen =>
      rw [Sink.trace_openUnit hopen]
      exact .notOpened
  | packageLineFails _ hopen happend =>
      obtain ⟨closed, htrace⟩ := trace_cutOff hopen (.nil _) happend
      rw [htrace]
      refine .cutOff [] (packageLine c.package) closed ?_
      simp [passTexts]
  | @declarationFails _ _ _ earlier later decl text _ hselected hopen hbefore htext happend =>
      obtain ⟨closed, htrace⟩ := trace_cutOff hopen hbefore happend
      rw [htrace]
      refine .cutOff (passTexts c earlier) text closed ⟨later.filterMap (·.writtenText? c), ?_⟩
      rw [hselected]
      simp [passTexts, htext]
  | closingFails _ hopen happends hclose =>
      rw [trace_allTaken hopen happends hclose]
      exact .allTaken _
  | completes _ hopen happends hclose =>
      rw [trace_allTaken hopen happends hclose]
      exact .allTaken _

/-- The sink is left alone exactly if nothing is selected. -/
theorem trace_eq_nil_iff (h : PassRun S.traced c corpus (s, []) log r) :
    r.store.2 = [] ↔ selection corpus c.marker = [] := by
  cases h with
  | untouched hselected => simp [hselected]
  | openingFails hselected hopen =>
      rw [Sink.trace_openUnit hopen]
      simpa using hselected
  | packageLineFails hselected hopen happend =>
      obtain ⟨closed, htrace⟩ := trace_cutOff hopen (.nil _) happend
      rw [htrace]
      simpa using hselected
  | declarationFails hselected hopen hbefore htext happend =>
      obtain ⟨closed, htrace⟩ := trace_cutOff hopen hbefore happend
      rw [htrace, hselected]
      simp
  | closingFails hselected hopen happends hclose =>
      rw [trace_allTaken hopen happends hclose]
      simpa using hselected
  | completes hselected hopen happends hclose =>
      rw [trace_allTaken hopen happends hclose]
      simpa using hselected

/-- A pass has an output exactly if none of its operations failed. -/
theorem exists_ok_iff (h : PassRun S.traced c corpus (s, []) log r) :
    (∃ summary, r.outcome = .ok summary) ↔ ∀ e ∈ r.store.2, e.succeeded = true := by
  cases h with
  | untouched _ => simp
  | openingFails _ hopen =>
      rw [Sink.trace_openUnit hopen]
      simp [SinkEvent.succeeded, SinkFault.isOk]
  | packageLineFails _ hopen happend =>
      obtain ⟨closed, htrace⟩ := trace_cutOff hopen (.nil _) happend
      refine ⟨?_, ?_⟩
      · rintro ⟨summary, hok⟩
        cases hok
      · intro hall
        have hrefused := hall (.appended (packageLine c.package) false) (by simp [htrace])
        cases hrefused
  | @declarationFails _ _ _ _ _ _ text _ _ hopen hbefore _ happend =>
      obtain ⟨closed, htrace⟩ := trace_cutOff hopen hbefore happend
      refine ⟨?_, ?_⟩
      · rintro ⟨summary, hok⟩
        cases hok
      · intro hall
        have hrefused := hall (.appended text false) (by simp [htrace])
        cases hrefused
  | closingFails _ hopen happends hclose =>
      rw [trace_allTaken hopen happends hclose]
      simp [SinkEvent.succeeded, SinkFault.isOk]
  | completes _ hopen happends hclose =>
      rw [trace_allTaken hopen happends hclose]
      simp only [List.mem_cons, List.mem_append, List.mem_map, List.not_mem_nil, or_false]
      refine ⟨?_, ?_⟩
      · intro _ e he
        rcases he with rfl | ⟨text, _, rfl⟩ | rfl
        · rfl
        · rfl
        · rfl
      · intro _
        exact ⟨_, rfl⟩

/-- Where nothing fails, the package line is appended and the text of every function written. -/
theorem countP_isAppend (h : PassRun S.traced c corpus (s, []) log r)
    (hselected : selection corpus c.marker ≠ []) (hok : ∀ e ∈ r.store.2, e.succeeded = true) :
    r.store.2.countP SinkEvent.isAppend
      = 1 + (selection corpus c.marker).countP (·.isWritten c) := by
  have hsome := h.exists_ok_iff.mpr hok
  cases h with
  | untouched hnone => exact absurd hnone hselected
  | completes _ hopen happends hclose =>
      rw [trace_allTaken hopen happends hclose, ← length_passTexts]
      generalize passTexts c (selection corpus c.marker) = texts
      have hall : (texts.map (SinkEvent.appended · true)).countP SinkEvent.isAppend
          = (texts.map (SinkEvent.appended · true)).length := by
        rw [List.countP_eq_length]
        intro e he
        obtain ⟨text, _, rfl⟩ := List.mem_map.mp he
        rfl
      rw [List.countP_cons, List.countP_append, hall, List.length_map]
      simp [SinkEvent.isAppend]
  | _ => simp at hsome

/-- Nothing is reported before the package line has been taken. -/
theorem log_of_packageLine_refused (h : PassRun S.traced c corpus (s, []) log r) {text : String}
    (hrefused : r.store.2[1]? = some (.appended text false)) : r.log = log := by
  cases h with
  | untouched _ => rfl
  | openingFails _ _ => rfl
  | packageLineFails _ _ _ => rfl
  | declarationFails _ hopen hbefore _ happend =>
      -- the refused text stands behind the package line
      obtain ⟨closed, htrace⟩ := trace_cutOff hopen hbefore happend
      rw [htrace, List.getElem?_cons_succ] at hrefused
      have hindex := index_of_refused hrefused
      rw [length_passTexts] at hindex
      omega
  | closingFails _ hopen happends hclose =>
      rw [trace_allTaken hopen happends hclose, List.getElem?_cons_succ] at hrefused
      exact absurd hrefused not_refused_of_allTaken
  | completes _ hopen happends hclose =>
      rw [trace_allTaken hopen happends hclose, List.getElem?_cons_succ] at hrefused
      exact absurd hrefused not_refused_of_allTaken

/-- When the text of a declaration is refused, the declarations before it have been reported on, and
neither it nor a later one. -/
theorem log_of_declaration_refused (h : PassRun S.traced c corpus (s, []) log r)
    {earlier later : List Declaration} {decl : Declaration} {text : String}
    (hsplit : selection corpus c.marker = earlier ++ decl :: later)
    (hwritten : decl.isWritten c = true)
    (hrefused : r.store.2[2 + earlier.countP (·.isWritten c)]? = some (.appended text false)) :
    r.log = log.reportAll (passDiagnostics c earlier) := by
  rw [show 2 + earlier.countP (·.isWritten c) = 1 + earlier.countP (·.isWritten c) + 1 by omega]
    at hrefused
  cases h with
  | untouched hnone =>
      rw [hnone] at hsplit
      simp at hsplit
  | openingFails _ hopen =>
      rw [Sink.trace_openUnit hopen, List.nil_append, List.getElem?_cons_succ] at hrefused
      simp at hrefused
  | packageLineFails _ hopen happend =>
      obtain ⟨closed, htrace⟩ := trace_cutOff hopen (.nil _) happend
      rw [htrace, List.getElem?_cons_succ] at hrefused
      have hindex := index_of_refused hrefused
      rw [List.length_nil] at hindex
      omega
  | declarationFails hselected hopen hbefore htext happend =>
      obtain ⟨closed, htrace⟩ := trace_cutOff hopen hbefore happend
      rw [htrace, List.getElem?_cons_succ] at hrefused
      have hindex := index_of_refused hrefused
      rw [length_passTexts] at hindex
      -- both declarations are written and stand at the same index, so they are the same
      have hsome : ∀ {d : Declaration} {t : String}, d.writtenText? c = some t →
          d.isWritten c = true := by
        intro d t ht
        rw [← Declaration.isSome_writtenText?, ht]
        rfl
      rw [eq_of_countP_eq (f := (·.isWritten c)) hsplit hselected hwritten (hsome htext) (by omega)]
  | closingFails _ hopen happends hclose =>
      rw [trace_allTaken hopen happends hclose, List.getElem?_cons_succ] at hrefused
      exact absurd hrefused not_refused_of_allTaken
  | completes _ hopen happends hclose =>
      rw [trace_allTaken hopen happends hclose, List.getElem?_cons_succ] at hrefused
      exact absurd hrefused not_refused_of_allTaken

end PassRun

/-- **The protocol of a pass with its sink**, for sinks that fail whenever they like. The pass
carries out the same operations with the same effect whether or not they are traced. The trace is
empty exactly if nothing is selected, and it is one of those that `IsPassTrace` allows. There is an
output exactly if every operation succeeded, and then the texts appended are the package line and
one for every function that was written. If the package line is refused nothing has been reported,
and if the text of a declaration is refused, exactly the diagnostics of those selected before it
have been. -/
theorem runPass_protocol (S : Sink σ) (c : Configuration) (corpus : List Declaration) (s : σ)
    (log : Log) :
    let r := runPass S.traced c corpus (s, []) log
    let events := r.store.2
    let selected := selection corpus c.marker
    runPass S c corpus s log = r.mapStore Prod.fst ∧
      (events = [] ↔ selected = []) ∧
      IsPassTrace c selected events ∧
      ((∃ summary, r.outcome = .ok summary) ↔ ∀ e ∈ events, e.succeeded = true) ∧
      ((∀ e ∈ events, e.succeeded = true) → selected ≠ [] →
        events.countP SinkEvent.isAppend = 1 + selected.countP (·.isWritten c)) ∧
      (∀ text, events[1]? = some (.appended text false) → r.log = log) ∧
      (∀ earlier decl later text, selected = earlier ++ decl :: later → decl.isWritten c = true →
        events[2 + earlier.countP (·.isWritten c)]? = some (.appended text false) →
        r.log = log.reportAll (passDiagnostics c earlier)) := by
  have hrun := passRun_runPass S.traced c corpus (s, []) log
  refine ⟨S.traced_simulates.runPass c corpus (s, []) log, hrun.trace_eq_nil_iff,
    hrun.isPassTrace, hrun.exists_ok_iff, ?_, ?_, ?_⟩
  · intro hok hselected
    exact hrun.countP_isAppend hselected hok
  · intro text hrefused
    exact hrun.log_of_packageLine_refused hrefused
  · intro earlier decl later text hsplit hwritten hrefused
    exact hrun.log_of_declaration_refused hsplit hwritten hrefused

end Stubsmith
