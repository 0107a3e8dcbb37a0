import StoneDebug.Foreign.Reply
import StoneDebug.Proofs.Debug.Placing
import StoneDebug.Proofs.Debug.Requests
import StoneDebug.Proofs.Session.Busy

/-! # Recompiled methods

Whatever a debug session keeps about methods and classes was kept before, or the VM has said it since:
`Learns` says so of every request. When a method was compiled anew, its breakpoints and its label are
forgotten, and are from then on those that the VM has agreed to or told since. Its source is not
forgotten. As long as the session and the process stay, the text that is shown, the line of a frame and
the positions for breakpoints are taken from the source that was kept before.
-/

namespace StoneDebug

open Source Debug

variable {α β : Type} {s : Session} {d d' : DebugSession} {w w' : World} {xs ys : List Exchange}

/-! ## Where something comes from -/

/-- Among these exchanges are those of a run of `act` that has come to this value. -/
def Obtained (act : Attempt α) (a : α) (xs : List Exchange) : Prop :=
  ∃ w w' made, act w = (.ok a, w') ∧ w'.transcript = w.transcript ++ made ∧ made <:+: xs

theorem Obtained.mono {act : Attempt α} {a : α} (within : xs <:+: ys) (obtained : Obtained act a xs) :
    Obtained act a ys := by
  obtain ⟨w, w', made, ran, asked, part⟩ := obtained
  exact ⟨w, w', made, ran, asked, part.trans within⟩

theorem obtained_of_ran {P : Exchange → Prop} {act : Attempt α} {a : α}
    (calls : Along (Adds P) act.run) (ran : act w = (.ok a, w')) :
    ∃ made, w'.transcript = w.transcript ++ made ∧ Obtained act a made := by
  obtain ⟨made, asked, _⟩ := calls w
  rw [ExceptT.run, ran] at asked
  exact ⟨made, asked, w, w', made, ran, asked, List.infix_rfl⟩

/-- It is kept under this key, or it has been fetched. -/
def Known (kept : List (Oop × β)) (fetch : Session → Oop → Attempt β) (key : Oop) (b : β)
    (xs : List Exchange) : Prop :=
  kept.lookup key = some b ∨ ∃ s, Obtained (fetch s key) b xs

theorem Known.mono {kept : List (Oop × β)} {fetch : Session → Oop → Attempt β} {key : Oop} {b : β}
    (within : xs <:+: ys) (known : Known kept fetch key b xs) : Known kept fetch key b ys :=
  known.imp_right fun ⟨s, obtained⟩ => ⟨s, obtained.mono within⟩

theorem Known.after {kept kept' : List (Oop × β)} {fetch : Session → Oop → Attempt β} {key : Oop}
    {b : β} (before : kept'.lookup key = some b → Known kept fetch key b xs)
    (known : Known kept' fetch key b ys) : Known kept fetch key b (xs ++ ys) := by
  rcases known with found | ⟨s, obtained⟩
  · exact (before found).mono (List.prefix_append xs ys).isInfix
  · exact .inr ⟨s, obtained.mono (List.suffix_append xs ys).isInfix⟩

/-- The label is made of the method's class and selector, which have been asked for. The name of the
class may be kept, since it is not the method's. -/
def Labelled (names : List (Oop × String)) (method : Oop) (label : String) (xs : List Exchange) :
    Prop :=
  ∃ (s : Session) (cls : Oop) (name : String) (selector : Oop) (text : String),
    Obtained (s.perform method "inClass" []) cls xs ∧ Known names Session.className cls name xs ∧
      Obtained (s.perform method "selector" []) selector xs ∧
      Obtained (s.fetchString selector) text xs ∧ label = name ++ ">>" ++ text

theorem Labelled.after {names names' : List (Oop × String)} {method : Oop} {label : String}
    (before : ∀ cls name, names'.lookup cls = some name → Known names Session.className cls name xs)
    (labelled : Labelled names' method label ys) : Labelled names method label (xs ++ ys) := by
  obtain ⟨s, cls, name, selector, text, inClass, known, selects, reads, made⟩ := labelled
  have later := (List.suffix_append xs ys).isInfix
  exact ⟨s, cls, name, selector, text, inClass.mono later, known.after (before cls name),
    selects.mono later, reads.mono later, made⟩

theorem Labelled.mono {names : List (Oop × String)} {method : Oop} {label : String}
    (within : xs <:+: ys) (labelled : Labelled names method label xs) :
    Labelled names method label ys := by
  obtain ⟨s, cls, name, selector, text, inClass, known, selects, reads, made⟩ := labelled
  exact ⟨s, cls, name, selector, text, inClass.mono within, known.mono within, selects.mono within,
    reads.mono within, made⟩

/-- The VM has agreed to a breakpoint. -/
def Agreed (s : Session) (method : Oop) (b : TrackedBreakpoint) (xs : List Exchange) : Prop :=
  ∃ value, s.sent
    { receiver := method, selector := "setBreakAtStepPoint:", args := [.ofSmallInt b.stepPoint] }
    (.ok value) ∈ xs

theorem Agreed.mono {method : Oop} {b : TrackedBreakpoint} (within : xs ⊆ ys)
    (agreed : Agreed s method b xs) : Agreed s method b ys :=
  agreed.imp fun _ sent => within sent

/-- The VM has agreed to all breakpoints of the document. -/
def Accepted (doc : Document) (xs : List Exchange) : Prop :=
  ∃ s, ∀ b ∈ doc.breakpoints, Agreed s doc.method b xs

theorem Accepted.mono {doc : Document} (within : xs ⊆ ys) (accepted : Accepted doc xs) :
    Accepted doc ys :=
  accepted.imp fun _ agreed b member => (agreed b member).mono within

/-- All that is kept about methods and classes in `d'` was kept in `d`, or comes from the exchanges. -/
structure Learnt (d : DebugSession) (xs : List Exchange) (d' : DebugSession) : Prop where
  sources : ∀ method source, d'.sources.lookup method = some source →
    Known d.sources Session.fetchSource method source xs
  classNames : ∀ cls name, d'.classNames.lookup cls = some name →
    Known d.classNames Session.className cls name xs
  labels : ∀ method label, d'.labels.lookup method = some label →
    d.labels.lookup method = some label ∨ Labelled d.classNames method label xs
  documents : ∀ doc ∈ d'.documents, doc ∈ d.documents ∨ Accepted doc xs

theorem Learnt.of_same (xs : List Exchange) (sources : d'.sources = d.sources)
    (classNames : d'.classNames = d.classNames) (labels : d'.labels = d.labels)
    (documents : d'.documents = d.documents) : Learnt d xs d' where
  sources _ _ kept := .inl (sources ▸ kept)
  classNames _ _ kept := .inl (classNames ▸ kept)
  labels _ _ kept := .inl (labels ▸ kept)
  documents _ member := .inl (documents ▸ member)

theorem Learnt.refl (d : DebugSession) (xs : List Exchange) : Learnt d xs d :=
  .of_same xs rfl rfl rfl rfl

theorem Learnt.trans {d₁ d₂ : DebugSession} (first : Learnt d xs d₁) (second : Learnt d₁ ys d₂) :
    Learnt d (xs ++ ys) d₂ where
  sources method source kept :=
    (second.sources method source kept).after (first.sources method source)
  classNames cls name kept := (second.classNames cls name kept).after (first.classNames cls name)
  labels method label kept := by
    rcases second.labels method label kept with old | labelled
    · have before := first.labels method label old
      exact before.imp_right (·.mono (List.prefix_append xs ys).isInfix)
    · exact .inr (labelled.after first.classNames)
  documents doc member := by
    rcases second.documents doc member with old | accepted
    · have before := first.documents doc old
      exact before.imp_right (·.mono (List.subset_append_left xs ys))
    · exact .inr (accepted.mono (List.subset_append_right xs ys))

/-- What is kept afterwards was kept before or comes from the exchanges between. -/
def Learns (x y : DebugSession × World) : Prop :=
  ∃ made, y.2.transcript = x.2.transcript ++ made ∧ Learnt x.1 made y.1

theorem lasts_learns : Lasts Learns where
  refl x := ⟨[], (List.append_nil _).symm, .refl x.1 []⟩
  trans := by
    rintro x y z ⟨first, asked, learnt⟩ ⟨second, asked', learnt'⟩
    exact ⟨first ++ second, by rw [asked', asked, List.append_assoc], learnt.trans learnt'⟩

/-- Moreover the session stays, and so do the sources that are kept. -/
structure Gains (x y : DebugSession × World) : Prop where
  session : y.1.session = x.1.session
  kept : ∀ method source, x.1.sources.lookup method = some source →
    y.1.sources.lookup method = some source
  learns : Learns x y

theorem lasts_gains : Lasts Gains where
  refl x := ⟨rfl, fun _ _ kept => kept, lasts_learns.refl x⟩
  trans h h' := ⟨h'.session.trans h.session,
    fun method source kept => h'.kept method source (h.kept method source kept),
    lasts_learns.trans h.learns h'.learns⟩

/-! ## What is fetched once -/

/-- The ways to come by something that is fetched once: it is known, it cannot be fetched, or it is
fetched, and kept from then on. -/
inductive Cached (known : Option β) (fetch : Attempt β) (keep : β → DebugSession)
    (d : DebugSession) (w : World) : (Except DebugError β × DebugSession) × World → Prop
  | kept {b : β} (found : known = some b) : Cached known fetch keep d w ((.ok b, d), w)
  | failed {e : CallError} {w' : World} (missing : known = none) (ran : fetch w = (.error e, w')) :
    Cached known fetch keep d w ((.error (.call e), d), w')
  | fetched {b : β} {w' : World} (missing : known = none) (ran : fetch w = (.ok b, w')) :
    Cached known fetch keep d w ((.ok b, keep b), w')

theorem cached_once (known : DebugSession → Option β) (fetch : Attempt β)
    (keep : DebugSession → β → DebugSession) (d : DebugSession) (w : World) :
    Cached (known d) fetch (keep d) d w (once known fetch keep d w) := by
  rw [once, Staged.attempt_get_bind]
  cases found : known d with
  | some b => exact .kept rfl
  | none =>
      dsimp only
      rw [remote_bind_apply]
      rcases ran : fetch w with ⟨e | b, w'⟩
      · exact .failed rfl ran
      · exact .fetched rfl ran

theorem cached_sourceOf (s : Session) (method : Oop) (d : DebugSession) (w : World) :
    Cached (d.sources.lookup method) (s.fetchSource method)
      (fun source => { d with sources := (method, source) :: d.sources }) d w
      (sourceOf s method d w) := by
  rw [sourceOf_eq_once]
  exact cached_once (·.sources.lookup method) (s.fetchSource method)
    (fun d source => { d with sources := (method, source) :: d.sources }) d w

theorem cached_className (s : Session) (cls : Oop) (d : DebugSession) (w : World) :
    Cached (d.classNames.lookup cls) (s.className cls)
      (fun name => { d with classNames := (cls, name) :: d.classNames }) d w
      (className s cls d w) := by
  rw [className_eq_once]
  exact cached_once (·.classNames.lookup cls) (s.className cls)
    (fun d name => { d with classNames := (cls, name) :: d.classNames }) d w

namespace Cached

variable {known : Option β} {fetch : Attempt β} {keep : β → DebugSession}
  {ran : (Except DebugError β × DebugSession) × World}

theorem obtained {b : β} (cached : Cached known fetch keep d w ((.ok b, d'), w'))
    (calls : Along (Adds s.Own) fetch.run) :
    ∃ made, w'.transcript = w.transcript ++ made ∧ (known = some b ∨ Obtained fetch b made) := by
  cases cached with
  | kept found => exact ⟨[], (List.append_nil _).symm, .inl found⟩
  | fetched _ ran =>
      obtain ⟨made, asked, obtained⟩ := obtained_of_ran calls ran
      exact ⟨made, asked, .inr obtained⟩

theorem gains (cached : Cached known fetch keep d w ran) (calls : Along (Adds s.Own) fetch.run)
    (keeps : known = none → ∀ b made, Obtained fetch b made → (keep b).session = d.session ∧
      (∀ method source, d.sources.lookup method = some source →
        (keep b).sources.lookup method = some source) ∧ Learnt d made (keep b)) :
    Gains (d, w) (ran.1.2, ran.2) := by
  cases cached with
  | kept found => exact lasts_gains.refl (d, w)
  | failed _ ran =>
      obtain ⟨made, asked, _⟩ := calls w
      rw [ExceptT.run, ran] at asked
      exact ⟨rfl, fun _ _ kept => kept, made, asked, .refl d made⟩
  | fetched missing ran =>
      obtain ⟨made, asked, obtained⟩ := obtained_of_ran calls ran
      obtain ⟨session, kept, learnt⟩ := keeps missing _ made obtained
      exact ⟨session, kept, made, asked, learnt⟩

end Cached

theorem known_sourceOf {method : Oop} {source : MethodSource}
    (ran : sourceOf s method d w = ((.ok source, d'), w')) :
    ∃ made, w'.transcript = w.transcript ++ made ∧
      Known d.sources Session.fetchSource method source made := by
  have cached := cached_sourceOf s method d w
  rw [ran] at cached
  obtain ⟨made, asked, known⟩ := cached.obtained (along_fetchSource s.carries_own method)
  exact ⟨made, asked, known.imp_right fun obtained => ⟨s, obtained⟩⟩

theorem known_className {cls : Oop} {name : String}
    (ran : className s cls d w = ((.ok name, d'), w')) :
    ∃ made, w'.transcript = w.transcript ++ made ∧
      Known d.classNames Session.className cls name made := by
  have cached := cached_className s cls d w
  rw [ran] at cached
  obtain ⟨made, asked, known⟩ := cached.obtained (s.carries_own.className cls)
  exact ⟨made, asked, known.imp_right fun obtained => ⟨s, obtained⟩⟩

/-! ## Asking -/

theorem gains_of_same {P : Exchange → Prop} (session : d'.session = d.session)
    (sources : d'.sources = d.sources) (classNames : d'.classNames = d.classNames)
    (labels : d'.labels = d.labels) (documents : d'.documents = d.documents) (calls : Adds P w w') :
    Gains (d, w) (d', w') := by
  obtain ⟨made, asked, _⟩ := calls
  exact ⟨session, fun _ _ kept => sources ▸ kept, made, asked,
    .of_same made sources classNames labels documents⟩

theorem gains_of_quiet (session : d'.session = d.session) (sources : d'.sources = d.sources)
    (classNames : d'.classNames = d.classNames) (labels : d'.labels = d.labels)
    (documents : d'.documents = d.documents) (quiet : w'.transcript = w.transcript) :
    Gains (d, w) (d', w') :=
  gains_of_same session sources classNames labels documents
    (.of_transcript_eq (P := fun _ => True) quiet)

theorem asks_gains : Asks Gains where
  toLasts := lasts_gains
  session h := h.session
  calls {s d} _ := carries_at lasts_gains d s.carries_own (gains_of_same rfl rfl rfl rfl rfl)
  log _ _ _ _ _ := gains_of_quiet rfl rfl rfl rfl rfl rfl

theorem gains_sourceOf (method : Oop) : Staged.Along (Under s Gains) (sourceOf s method).run := by
  intro d w _
  refine (cached_sourceOf s method d w).gains (along_fetchSource s.carries_own method) ?_
  intro missing source made obtained
  refine ⟨rfl, fun m source' kept => ?_, ?_⟩
  · rw [List.lookup_cons]
    cases same : m == method with
    | true => cases missing.symm.trans (eq_of_beq same ▸ kept)
    | false => exact kept
  · refine { Learnt.refl d made with sources := fun m source' kept => ?_ }
    rcases lookup_cons_cases kept with ⟨rfl, rfl⟩ | old
    · exact .inr ⟨s, obtained⟩
    · exact .inl old

theorem gains_className (cls : Oop) : Staged.Along (Under s Gains) (className s cls).run := by
  intro d w _
  refine (cached_className s cls d w).gains (s.carries_own.className cls) ?_
  intro _ name made obtained
  refine ⟨rfl, fun _ _ kept => kept, ?_⟩
  refine { Learnt.refl d made with classNames := fun c name' kept => ?_ }
  rcases lookup_cons_cases kept with ⟨rfl, rfl⟩ | old
  · exact .inr ⟨s, obtained⟩
  · exact .inl old

/-! ## Labels -/

/-- The label of a method that is not kept yet. -/
def Debug.readLabel (method : Oop) : Debug String := do
  let s ← session
  let cls ← remote (s.perform method "inClass" [])
  if cls.isNil then throw (.unexpectedValue cls "method class")
  let name ← className s cls
  let selector ← remote (s.perform method "selector" [])
  let text ← remote (s.fetchString selector)
  return name ++ ">>" ++ text

def Debug.keepLabel (method : Oop) (label : String) : Debug String := do
  modify fun d => { d with labels := (method, label) :: d.labels }
  return label

theorem methodLabel_apply (method : Oop) (d : DebugSession) (w : World) :
    methodLabel method d w = match d.labels.lookup method with
      | some label => ((.ok label, d), w)
      | none => (readLabel method >>= keepLabel method) d w := by
  rw [methodLabel, Staged.attempt_get_bind]
  cases d.labels.lookup method with
  | some label => rfl
  | none =>
      dsimp only
      refine congrFun (congrFun ?_ d) w
      simp only [readLabel, bind_assoc]
      refine bind_congr fun s => bind_congr fun cls => ?_
      split <;> simp only [keepLabel, bind_assoc, pure_bind]

theorem gains_readLabel (method : Oop) : Staged.Along Gains (readLabel method).run := by
  refine session_along lasts_gains fun s => ?_
  refine .attemptBind asks_gains.under (asks_gains.remote (·.perform _ _ _)) fun cls => ?_
  dsimp only
  split
  · exact .throw asks_gains.under _
  · refine .attemptBind asks_gains.under (gains_className cls) fun name => ?_
    refine .attemptBind asks_gains.under (asks_gains.remote (·.perform _ _ _)) fun selector => ?_
    refine .attemptBind asks_gains.under (asks_gains.remote (·.fetchString _)) fun text => ?_
    exact .attemptPure asks_gains.under _

theorem obtained_of_remote {act : Attempt α} {next : α → Debug β} {b : β}
    (calls : Along (Adds s.Own) act.run)
    (ran : (remote act >>= next) d w = ((.ok b, d'), w')) :
    ∃ a w₁ made, w₁.transcript = w.transcript ++ made ∧ Obtained act a made ∧
      next a d w₁ = ((.ok b, d'), w') := by
  rw [remote_bind_apply] at ran
  rcases acted : act w with ⟨e | a, w₁⟩
  · rw [acted] at ran
    cases ran
  · rw [acted] at ran
    obtain ⟨made, added, obtained⟩ := obtained_of_ran calls acted
    exact ⟨a, w₁, made, added, obtained, ran⟩

theorem labelled_of_readLabel {method : Oop} {label : String}
    (ran : readLabel method d w = ((.ok label, d'), w')) :
    ∃ made, w'.transcript = w.transcript ++ made ∧ Labelled d.classNames method label made := by
  obtain ⟨s, _, rest⟩ := of_session_bind_ok ran
  have calls := s.carries_own
  obtain ⟨cls, w₁, made₁, asked₁, inClass, rest⟩ := obtained_of_remote (calls.perform _ _ _) rest
  dsimp only at rest
  split at rest
  · cases rest
  obtain ⟨name, d₂, w₂, named, rest⟩ := Staged.of_attempt_bind_ok rest
  obtain ⟨made₂, asked₂, known⟩ := known_className named
  obtain ⟨selector, w₃, made₃, asked₃, selects, rest⟩ :=
    obtained_of_remote (calls.perform _ _ _) rest
  obtain ⟨text, w₄, made₄, asked₄, reads, rest⟩ :=
    obtained_of_remote (calls.fetchString _) rest
  cases rest
  refine ⟨made₁ ++ (made₂ ++ (made₃ ++ made₄)), ?_, s, cls, name, selector, text, ?_, ?_, ?_, ?_,
    rfl⟩
  · simp only [asked₄, asked₃, asked₂, asked₁, List.append_assoc]
  · exact inClass.mono (List.prefix_append _ _).isInfix
  · exact known.mono ⟨made₁, made₃ ++ made₄, by simp⟩
  · exact selects.mono ⟨made₁ ++ made₂, made₄, by simp⟩
  · exact reads.mono ⟨made₁ ++ (made₂ ++ made₃), [], by simp⟩

theorem gains_methodLabel (method : Oop) : Staged.Along Gains (methodLabel method).run := by
  intro d w
  have gains := gains_readLabel method d w
  have opened := methodLabel_apply method d w
  cases known : d.labels.lookup method with
  | some label =>
      rw [known] at opened
      rw [ExceptT.run, Staged.ends_of opened]
      exact lasts_gains.refl (d, w)
  | none =>
      rw [known] at opened
      rcases ran : readLabel method d w with ⟨⟨e | label, d'⟩, w'⟩
      · rw [ExceptT.run, Staged.ends_of ran] at gains
        rw [ExceptT.run, Staged.ends_of (opened.trans (Staged.attempt_bind_error ran))]
        exact gains
      · rw [ExceptT.run, Staged.ends_of ran] at gains
        have keeps := opened.trans (Staged.attempt_bind_ok ran)
        rw [ExceptT.run, Staged.ends, keeps]
        obtain ⟨session, kept, made, asked, learnt⟩ := gains
        obtain ⟨made', asked', labelled⟩ := labelled_of_readLabel ran
        obtain rfl := List.append_cancel_left (asked.symm.trans asked')
        refine ⟨session, kept, made, asked, { learnt with labels := fun m label' old => ?_ }⟩
        rcases lookup_cons_cases old with ⟨rfl, rfl⟩ | old
        · exact .inr labelled
        · exact learnt.labels m label' old

/-! ## Breakpoints -/

theorem agreed_of_asked {method : Oop} {p : Placing} (asked : p.Asked s method w w') :
    ∃ made, w'.transcript = w.transcript ++ made ∧
      ∀ b, p.tracking = some b → Agreed s method b made := by
  rcases p with _ | ⟨m, e | value⟩
  · obtain rfl : w' = w := asked
    exact ⟨[], (List.append_nil _).symm, nofun⟩
  · obtain ⟨w₁, ran, quiet⟩ := asked
    obtain ⟨made, added, _⟩ := s.carries_own.perform method "setBreakAtStepPoint:"
      [.ofSmallInt m.stepPoint] w
    rw [ExceptT.run, ran] at added
    exact ⟨made, quiet.transcript.trans added, nofun⟩
  · obtain ⟨w₁, ran, quiet⟩ := asked
    obtain ⟨drained, _, added⟩ := Session.perform_ok ran
    refine ⟨_, quiet.transcript.trans added, fun b tracked => ⟨value, ?_⟩⟩
    cases tracked
    exact List.mem_append_right drained (List.mem_singleton_self _)

theorem agreed_of_allAsked {method : Oop} {placings : List Placing}
    (asked : Placing.AllAsked s method placings w w') :
    ∃ made, w'.transcript = w.transcript ++ made ∧
      ∀ b ∈ placings.filterMap Placing.tracking, Agreed s method b made := by
  induction asked with
  | nil => exact ⟨[], (List.append_nil _).symm, nofun⟩
  | @cons p ps _ _ _ first _ ih =>
      obtain ⟨made, added, agreed⟩ := agreed_of_asked first
      obtain ⟨others, added', agreed'⟩ := ih
      refine ⟨made ++ others, by rw [added', added, List.append_assoc], fun b member => ?_⟩
      obtain ⟨q, within, tracked⟩ := List.mem_filterMap.mp member
      rcases List.mem_cons.mp within with rfl | within
      · exact (agreed b tracked).mono (List.subset_append_left _ _)
      · have member' := List.mem_filterMap.mpr ⟨q, within, tracked⟩
        exact (agreed' b member').mono (List.subset_append_right _ _)

/-- What is tracked afterwards was tracked before, or the VM has agreed to it. -/
theorem documents_of_course {path : String} {method : Oop} {lines : List Int}
    {documents documents' : List Document} {views : List BreakpointView}
    (course : Course s path method lines documents w views documents' w') :
    ∃ made, w'.transcript = w.transcript ++ made ∧
      ∀ doc ∈ documents', doc ∈ documents ∨ Accepted doc made := by
  have left {doc : Document} (member : doc ∈ without path documents) : doc ∈ documents :=
    List.mem_of_mem_filter member
  have sends (selector : String) (args : List Oop) :=
    s.carries_own.perform method selector args w
  have fetches (w : World) := along_fetchSource s.carries_own method w
  cases course with
  | uncleared cleared quiet =>
      obtain ⟨made, added, _⟩ := sends "clearAllBreaks" []
      rw [ExceptT.run, cleared] at added
      exact ⟨made, quiet.transcript.trans added, fun _ member => .inl member⟩
  | emptied _ cleared =>
      obtain ⟨made, added, _⟩ := sends "clearAllBreaks" []
      rw [ExceptT.run, cleared] at added
      exact ⟨made, added, fun _ member => .inl (left member)⟩
  | @unfetched _ _ w₁ _ _ _ cleared fetched quiet =>
      obtain ⟨made, added, _⟩ := sends "clearAllBreaks" []
      obtain ⟨fetch, added', _⟩ := fetches w₁
      rw [ExceptT.run, cleared] at added
      rw [ExceptT.run, fetched] at added'
      refine ⟨made ++ fetch, ?_, fun _ member => .inl (left member)⟩
      rw [quiet.transcript, added', added, List.append_assoc]
  | @set _ _ placings w₁ _ _ _ _ cleared fetched _ asked quiet =>
      obtain ⟨made, added, _⟩ := sends "clearAllBreaks" []
      obtain ⟨fetch, added', _⟩ := fetches w₁
      obtain ⟨placed, added'', agreed⟩ := agreed_of_allAsked asked
      rw [ExceptT.run, cleared] at added
      rw [ExceptT.run, fetched] at added'
      refine ⟨made ++ (fetch ++ placed), ?_, fun doc member => ?_⟩
      · rw [quiet.transcript, added'', added', added, List.append_assoc, List.append_assoc]
      · rcases List.mem_append.mp member with old | new
        · exact .inl (left old)
        · obtain rfl := List.mem_singleton.mp new
          refine .inr ⟨s, fun b tracked => (agreed b tracked).mono ?_⟩
          exact List.Subset.trans (List.subset_append_right _ _) (List.subset_append_right _ _)

theorem gains_setMethodBreakpoints (path : String) (method : Oop) (lines : List Int) :
    Staged.Along (Under s Gains) (setMethodBreakpoints s path method lines) := by
  intro d w _
  obtain ⟨views, documents, w', ran, course⟩ :=
    setMethodBreakpoints_apply s path method lines d w
  obtain ⟨made, asked, tracked⟩ := documents_of_course course
  rw [Staged.ends_of ran]
  exact ⟨rfl, fun _ _ kept => kept, made, asked, { Learnt.refl d made with documents := tracked }⟩

theorem lookup_filter_ne {key method : Oop} {b : β} {kept : List (Oop × β)}
    (found : (kept.filter fun entry => entry.1 != method).lookup key = some b) :
    key ≠ method ∧ kept.lookup key = some b := by
  induction kept with
  | nil => cases found
  | cons entry kept ih =>
      obtain ⟨k, b'⟩ := entry
      by_cases dropped : k = method
      · rw [List.filter_cons_of_neg (by simp [dropped])] at found
        obtain ⟨other, old⟩ := ih found
        refine ⟨other, ?_⟩
        rw [List.lookup_cons, beq_false_of_ne (dropped ▸ other)]
        exact old
      · rw [List.filter_cons_of_pos (by simp [dropped]), List.lookup_cons] at found
        rw [List.lookup_cons]
        cases same : key == k with
        | true =>
            rw [same] at found
            exact ⟨eq_of_beq same ▸ dropped, found⟩
        | false =>
            rw [same] at found
            exact ih found

theorem gains_invalidateMethod (method : Oop) : Staged.Along Gains (invalidateMethod method) := by
  intro d w
  refine ⟨rfl, fun _ _ kept => kept, [], (List.append_nil _).symm, ?_⟩
  exact { Learnt.refl d [] with
    labels := fun _ _ kept => .inl (lookup_filter_ne kept).2
    documents := fun _ member => .inl (List.mem_of_mem_filter member) }

theorem explores_gains : Explores Gains where
  toAsks := asks_gains
  sourceOf := gains_sourceOf
  className := gains_className
  methodLabel := gains_methodLabel
  setMethodBreakpoints := gains_setMethodBreakpoints
  invalidateMethod := gains_invalidateMethod
  number _ _ _ := gains_of_quiet rfl rfl rfl rfl rfl rfl
  frame := frame_of_fetched asks_gains fun _ _ _ => gains_of_quiet rfl rfl rfl rfl rfl rfl
  handed _ _ _ := gains_of_quiet rfl rfl rfl rfl rfl rfl

theorem steers_gains : Steers Gains where
  toAsks := asks_gains
  forget _ _ := gains_of_quiet rfl rfl rfl rfl rfl rfl
  move _ _ _ _ _ := gains_of_quiet rfl rfl rfl rfl rfl rfl
  tell _ _ _ := gains_of_quiet rfl rfl rfl rfl rfl rfl

/-! ## Requests -/

theorem governs_learns : DebugOperation.Governs Learns where
  toLasts := lasts_learns
  asks _ asks := (DebugOperation.along_of_asks explores_gains asks).mono Gains.learns
  steers _ steers := (DebugOperation.along_of_steers steers_gains steers).mono Gains.learns
  log severity target text := (asks_gains.logs severity target text).mono Gains.learns
  bind s d w := by
    have same : Staged.ends (Debug.bind s) d w = (d.boundTo s, w) := Staged.ends_of (bind_apply s d w)
    rw [same]
    refine ⟨[], (List.append_nil _).symm, ?_⟩
    unfold DebugSession.boundTo
    split
    · exact .of_same [] rfl rfl rfl rfl
    · exact ⟨nofun, nofun, nofun, nofun⟩
  start _ _ d w := ⟨[], (List.append_nil _).symm, { Learnt.refl d [] with sources := nofun }⟩
  clearProcess := asks_gains.clearProcess.mono Gains.learns
  release _ _ := ⟨[], (List.append_nil _).symm, nofun, nofun, nofun, nofun⟩
  tell e d w := (steers_gains.tell d w e).learns
  tellStopped reason text := (steers_gains.tellStopped reason text).mono Gains.learns

namespace DebugRequest

/-- The request gives up the process, attaches to one or changes the session. -/
def Rebinds : DebugRequest → Prop
  | operation op => op.Rebinds
  | _ => False

theorem learns_run (request : DebugRequest) : Staged.Along Learns request.run.run :=
  request.along_of_governs governs_learns fun _ asks =>
    (along_of_asks explores_gains asks).mono Gains.learns

theorem gains_run {request : DebugRequest} (stays : ¬request.Rebinds) :
    Staged.Along Gains request.run.run := by
  cases asks : request.asks with
  | true => exact along_of_asks explores_gains asks
  | false =>
      cases request with
      | operation op =>
          cases op with
          | step | continueExecution | restartFrame =>
              exact DebugOperation.along_of_steers steers_gains rfl
          | bind | attach | attachSession | disconnect | terminate => exact absurd trivial stays
          | _ => cases asks
      | _ => cases asks

end DebugRequest

namespace DebugSession

theorem learnt_served (d : DebugSession) (run : List (DebugRequest × World)) :
    Learnt d (d.record run) (d.served run) := by
  induction run generalizing d with
  | nil => exact .refl d []
  | cons step run ih =>
      obtain ⟨request, w⟩ := step
      obtain ⟨made, added, learnt⟩ := request.learns_run d w
      have exchanges : asked request.run d w = made := asked_of added
      rw [record, exchanges]
      exact learnt.trans (ih _)

theorem kept_served {method : Oop} {source : MethodSource} {run : List (DebugRequest × World)}
    (kept : d.sources.lookup method = some source) (stays : ∀ x ∈ run, ¬x.1.Rebinds) :
    (d.served run).sources.lookup method = some source := by
  induction run generalizing d with
  | nil => exact kept
  | cons step run ih =>
      obtain ⟨request, w⟩ := step
      obtain ⟨first, others⟩ := List.forall_mem_cons.mp stays
      exact ih ((DebugRequest.gains_run first d w).kept method source kept) others

end DebugSession

/-! ## Answers -/

theorem labelled_of_methodLabel {method : Oop} {label : String}
    (ran : methodLabel method d w = ((.ok label, d'), w')) :
    d.labels.lookup method = some label ∨
      Labelled d.classNames method label (asked (methodLabel method) d w) := by
  have opened := (methodLabel_apply method d w).symm.trans ran
  cases known : d.labels.lookup method with
  | some label' =>
      rw [known] at opened
      cases opened
      exact .inl rfl
  | none =>
      rw [known] at opened
      obtain ⟨label', d₁, w₁, read, keeps⟩ := Staged.of_attempt_bind_ok opened
      cases keeps
      obtain ⟨made, added, labelled⟩ := labelled_of_readLabel read
      rw [asked_of (by rw [ran]; exact added)]
      exact .inr labelled

theorem known_of_source {reference : Int} {method : Oop} {text : String}
    (stands : d.methods.get? reference = some method) (real : ¬method.isNil = true)
    (ran : source reference d w = ((.ok text, d'), w')) :
    ∃ source, text = source.text ∧
      Known d.sources Session.fetchSource method source (asked (Debug.source reference) d w) := by
  have opened := ran
  rw [source, Staged.attempt_get_bind, stands] at opened
  dsimp only at opened
  rw [if_neg real] at opened
  obtain ⟨s, _, rest⟩ := of_session_bind_ok opened
  obtain ⟨source, d₁, w₁, fetched, rest⟩ := Staged.of_attempt_bind_ok rest
  cases rest
  obtain ⟨made, added, known⟩ := known_sourceOf fetched
  refine ⟨source, rfl, ?_⟩
  rw [asked_of (by rw [ran]; exact added)]
  exact known

/-- The line is that of the step point, which has been asked for, in the source. -/
def Lined (sources : List (Oop × MethodSource)) (level : Level) (frame : Frame) (line : Nat)
    (xs : List Exchange) : Prop :=
  ∃ (s : Session) (oop : Oop) (step : Int) (source : MethodSource),
    Obtained (s.perform frame.method "_stepPointForIp:level:useNext:"
      [(Oop.ofInt? frame.ip).getD .nil, levelOop level, .false]) oop xs ∧
    oop.expectInt = .ok step ∧ Known sources Session.fetchSource frame.method source xs ∧
    line = source.lineOfStepPoint step

theorem lined_of_frameLine {level : Level} {frame : Frame} {line : Nat}
    (ran : frameLine level frame d w = ((.ok line, d'), w')) :
    Lined d.sources level frame line (asked (frameLine level frame) d w) := by
  obtain ⟨s, _, rest⟩ := of_session_bind_ok ran
  obtain ⟨oop, w₁, made₁, added₁, obtained, rest⟩ :=
    obtained_of_remote (s.carries_own.perform _ _ _) rest
  obtain ⟨step, d₂, w₂, read, rest⟩ := Staged.of_attempt_bind_ok rest
  obtain ⟨source, d₃, w₃, fetched, rest⟩ := Staged.of_attempt_bind_ok rest
  cases rest
  cases expected : oop.expectInt with
  | error e =>
      rw [expected] at read
      cases read
  | ok _ =>
      rw [expected] at read
      cases read
      obtain ⟨made₂, added₂, known⟩ := known_sourceOf fetched
      rw [asked_of (by rw [ran]; dsimp only; rw [added₂, added₁, List.append_assoc])]
      exact ⟨s, oop, step, source, obtained.mono (List.prefix_append _ _).isInfix, expected,
        known.mono (List.suffix_append _ _).isInfix, rfl⟩

theorem known_of_breakpointLocations {path : String} {first last : Nat}
    {locations : List BreakpointLocation}
    (ran : breakpointLocations path first last d w = ((.ok locations, d'), w')) :
    ∃ s method source, d.session = some s ∧ (methodAt s path d w).1.1 = .ok method ∧
      locations = source.breakpointLocations first last ∧
      Known d.sources Session.fetchSource method source
        (asked (breakpointLocations path first last) d w) := by
  obtain ⟨s, bound, rest⟩ := of_session_bind_ok ran
  obtain ⟨method, d₁, w₁, resolved, rest⟩ := Staged.of_attempt_bind_ok rest
  obtain ⟨source, d₂, w₂, fetched, rest⟩ := Staged.of_attempt_bind_ok rest
  cases rest
  have gains := asks_gains.methodAt (s := s) path d w bound
  rw [ExceptT.run, Staged.ends_of resolved] at gains
  obtain ⟨made₁, added₁, learnt⟩ := gains.learns
  obtain ⟨made₂, added₂, known⟩ := known_sourceOf fetched
  refine ⟨s, method, source, bound, by rw [resolved], rfl, ?_⟩
  rw [asked_of (by rw [ran]; dsimp only; rw [added₂, added₁, List.append_assoc])]
  exact known.after (learnt.sources method source)

/-! ## After a method was compiled anew -/

namespace DebugSession

/-- What the VM is asked and answers while these requests are served and then this is done. -/
def recordTo (d : DebugSession) (run : List (DebugRequest × World)) (act : Debug α) (w : World) :
    List Exchange :=
  d.record run ++ asked act (d.served run) w

/-- The debug session `d` has become `d₁` when a method was compiled anew, and these requests have been
served since. What is kept or shown of the method comes from what the VM has said since, but for its
source: that is still the one that was kept by `d`, if there was one. -/
structure Recompiled (d d₁ : DebugSession) (method : Oop) (later : List (DebugRequest × World)) :
    Prop where
  forgotten : ∀ doc ∈ d₁.documents, doc.method ≠ method
  breakpoints : ∀ doc ∈ (d₁.served later).documents, doc.method = method →
    Accepted doc (d₁.record later)
  label : ∀ w label, (methodLabel method (d₁.served later) w).1.1 = .ok label →
    Labelled d.classNames method label (d₁.recordTo later (methodLabel method) w)
  text : ∀ reference w text, (d₁.served later).methods.get? reference = some method →
    ¬method.isNil = true → (Debug.source reference (d₁.served later) w).1.1 = .ok text →
    ∃ source, text = source.text ∧ Known d.sources Session.fetchSource method source
      (d₁.recordTo later (Debug.source reference) w)
  line : ∀ level frame w line, (frameLine level frame (d₁.served later) w).1.1 = .ok line →
    Lined d.sources level frame line (d₁.recordTo later (frameLine level frame) w)
  locations : ∀ path first last w locations,
    (breakpointLocations path first last (d₁.served later) w).1.1 = .ok locations →
    ∃ s m source, (d₁.served later).session = some s ∧
      (methodAt s path (d₁.served later) w).1.1 = .ok m ∧
      locations = source.breakpointLocations first last ∧
      Known d.sources Session.fetchSource m source
        (d₁.recordTo later (breakpointLocations path first last) w)
  /-- Text, line and locations go by this source. -/
  stale : ∀ source, d.sources.lookup method = some source → (∀ x ∈ later, ¬x.1.Rebinds) →
    ∀ s w, sourceOf s method (d₁.served later) w = ((.ok source, d₁.served later), w)

/-- A run of `act` that has succeeded. -/
theorem ran_of_answered {act : Debug α} {a : α} (answered : (act d w).1.1 = .ok a) :
    act d w = ((.ok a, (act d w).1.2), (act d w).2) := by
  rw [← answered]
  rfl

theorem recompiled (d : DebugSession) (method : Oop) (w₀ : World)
    (later : List (DebugRequest × World)) :
    Recompiled d (d.served [(.operation (.invalidateMethod method), w₀)]) method later := by
  let d₁ := d.served [(.operation (.invalidateMethod method), w₀)]
  have learnt : Learnt d₁ (d₁.record later) (d₁.served later) := d₁.learnt_served later
  have fresh : ∀ doc ∈ d₁.documents, doc.method ≠ method := by
    intro doc member
    simpa using (List.mem_filter.mp member).2
  exact {
    forgotten := fresh
    breakpoints := fun doc member same =>
      (learnt.documents doc member).resolve_left fun old => fresh doc old same
    label := fun w label answered => by
      rcases labelled_of_methodLabel (ran_of_answered answered) with known | labelled
      · rcases learnt.labels method label known with old | labelled
        · exact absurd rfl (lookup_filter_ne old).1
        · exact labelled.mono (List.prefix_append _ _).isInfix
      · exact labelled.after learnt.classNames
    text := fun reference w text stands real answered => by
      obtain ⟨source, same, known⟩ := known_of_source stands real (ran_of_answered answered)
      exact ⟨source, same, known.after (learnt.sources method source)⟩
    line := fun level frame w line answered => by
      obtain ⟨s, oop, step, source, obtained, read, known, same⟩ :=
        lined_of_frameLine (ran_of_answered answered)
      exact ⟨s, oop, step, source, obtained.mono (List.suffix_append _ _).isInfix, read,
        known.after (learnt.sources frame.method source), same⟩
    locations := fun path first last w locations answered => by
      obtain ⟨s, m, source, bound, resolved, same, known⟩ :=
        known_of_breakpointLocations (ran_of_answered answered)
      exact ⟨s, m, source, bound, resolved, same, known.after (learnt.sources m source)⟩
    stale := fun source kept stays s w => by
      have known : (d₁.served later).sources.lookup method = some source := kept_served kept stays
      rw [sourceOf, Staged.attempt_get_bind, known]
      rfl }

def reading (text : String) : VM := fun _ _ c => match c with
  | .perform _ => .ok (.ofNat 769)
  | .fetchUtf8Bytes .. => .ok ⟨Text.Utf8.encode text, 0⟩
  | .fetchSize _ => .ok 1
  | .fetchOops .. => .ok [.ofSmallInt 1]
  | c => Foreign.refuse (.other "") c

/-- The method was compiled anew, and still the old text is shown, without a look at the new one. -/
theorem source_of_recompiled :
    let old : World := { vm := reading "^ 1", horizon := 0 }
    let new : World := { vm := reading "^ 2", horizon := 0 }
    let s : Session := ⟨1, ⟨9⟩, ""⟩
    let method : Oop := .ofNat 513
    let start : DebugSession := { listener := fun _ => none }
    let d := start.served [(.operation (.bind s), old), (.sourceReference method, old),
      (.operation (.source 1), old)]
    let d₁ := d.served [(.operation (.invalidateMethod method), new)]
    (Debug.source 1 d₁ new).1.1 = .ok "^ 1" ∧ d₁.recordTo [] (Debug.source 1) new = [] ∧
      (s.fetchSource method new).1.toOption.map MethodSource.text = some "^ 2" := by
  decide +kernel

end DebugSession

end StoneDebug
