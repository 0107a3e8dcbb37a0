import StoneDebug.Proofs.Adapter.Changes

/-! # Pending breakpoints

Breakpoints requested before there is a session are kept by document, the later request in place of the
earlier one. The request that binds a session tells of those that are kept, each once, where the method
of their document is found.
-/

namespace StoneDebug.Adapter.Client

open Debug

/-! ## Binding a session -/

def Kept (x y : Client × World) : Prop := y.1.pending = x.1.pending

theorem overlooks_kept : Overlooks Kept where
  refl _ := rfl
  trans h h' := h'.trans h
  moved _ _ _ _ _ _ := rfl
  written _ _ _ _ _ _ := rfl

def successor? {α : Type} (act : Handling α) (x : Client × World) : Option (Client × World) :=
  match act x.1 x.2 with
  | ((.ok _, c), w) => some (c, w)
  | ((.error _, _), _) => none

section

variable {α : Type} {act : Handling α} {x y : Client × World}

theorem successor?_of_ok {a : α} (ran : act x.1 x.2 = ((.ok a, y.1), y.2)) :
    successor? act x = some y := by
  rw [successor?, ran]

theorem ok_of_successor? (succeeds : successor? act x = some y) :
    ∃ a, act x.1 x.2 = ((.ok a, y.1), y.2) := by
  rw [successor?] at succeeds
  split at succeeds
  · next a c w ran =>
      cases succeeds
      exact ⟨a, ran⟩
  · cases succeeds

theorem error_of_successor? (fails : successor? act x = none) :
    ∃ cause c w, act x.1 x.2 = ((.error cause, c), w) := by
  rw [successor?] at fails
  split at fails
  · cases fails
  · next cause c w ran => exact ⟨cause, c, w, ran⟩

end

/-- The state in which a request to launch or to attach has bound the debug session to a session. -/
def binding? (e : Envelope) (x : Client × World) : Option (Client × World) :=
  match Command.ofEnvelope e with
  | .ok (.launch a) => successor? (logIn a) x
  | .ok (.attach a) => successor? (onDebug (Debug.attach a.sessionId a.process a.message)) x
  | _ => none

theorem binding_cases {e : Envelope} {x y : Client × World} (binds : binding? e x = some y) :
    (∃ a s, Command.ofEnvelope e = .ok (.launch a) ∧ logIn a x.1 x.2 = ((.ok s, y.1), y.2)) ∨
      ∃ a u, Command.ofEnvelope e = .ok (.attach a) ∧
        onDebug (Debug.attach a.sessionId a.process a.message) x.1 x.2 = ((.ok u, y.1), y.2) := by
  rw [binding?] at binds
  split at binds
  · next a read =>
      obtain ⟨s, logged⟩ := ok_of_successor? binds
      exact .inl ⟨a, s, read, logged⟩
  · next a read =>
      obtain ⟨u, attached⟩ := ok_of_successor? binds
      exact .inr ⟨a, u, read, attached⟩
  · cases binds

/-- From `x` to `y` a session was bound, and nothing was done about breakpoints. -/
structure Binds (x y : Client × World) : Prop where
  bound : y.1.debug.session ≠ none
  kept : Kept x y
  still : Still x.2 y.2

theorem binds_of_logIn {a : LaunchArguments} {s : Session} {x y : Client × World}
    (logged : logIn a x.1 x.2 = ((.ok s, y.1), y.2)) : Binds x y := by
  have kept := overlooks_kept.logIn a x.1 x.2
  have still := still_logIn a x.1 x.2
  have login := logIn_apply a x.1 x.2
  rw [ExceptT.run, Staged.ends_of logged] at kept still
  rw [Staged.ends, logged] at login
  cases login with
  | granted s _ _ _ debug _ =>
      refine ⟨?_, kept, still⟩
      rw [show y.1.debug = x.1.debug.boundTo s from debug, x.1.debug.session_boundTo s]
      exact Option.some_ne_none s

theorem binds_of_attach {a : AttachArguments} {u : Unit} {x y : Client × World}
    (ran : onDebug (Debug.attach a.sessionId a.process a.message) x.1 x.2 =
      ((.ok u, y.1), y.2)) : Binds x y := by
  have kept := overlooks_kept.onDebug (Debug.attach a.sessionId a.process a.message) x.1 x.2
  have still := still_attach a.sessionId a.process a.message x.1.debug x.2
  have attached := of_onDebug_ok ran
  rw [ExceptT.run, Staged.ends_of ran] at kept
  rw [ExceptT.run, Staged.ends_of attached] at still
  refine ⟨?_, kept, still⟩
  rcases attach_apply a.sessionId a.process a.message x.1.debug x.2 with
    ⟨e, refused⟩ | ⟨_, s, result, d, w, _, goes, held, _⟩
  · cases attached.symm.trans refused
  · cases attached.symm.trans goes
    simp [held.session]

theorem binds_of_binding {e : Envelope} {x y : Client × World} (binds : binding? e x = some y) :
    Binds x y := by
  rcases binding_cases binds with ⟨_, _, _, logged⟩ | ⟨_, _, _, attached⟩
  · exact binds_of_logIn logged
  · exact binds_of_attach attached

/-- Once a session is bound, what is pending is applied; then the request is answered. -/
theorem opening_of_binding {e : Envelope} {x y : Client × World} (binds : binding? e x = some y) :
    opening e x = Staged.ends applyPending y.1 y.2 := by
  rcases binding_cases binds with ⟨_, _, read, logged⟩ | ⟨_, _, read, attached⟩
  · rw [opening_of_launch read, ExceptT.run, Staged.ends, Staged.attempt_bind_ok logged]
    rfl
  · rw [opening_of_answer read (by simp), ExceptT.run, Staged.ends, answer,
      Staged.attempt_bind_ok attached]
    rfl

/-- No session was bound, and what is pending is the same. -/
theorem kept_opening {e : Envelope} {x : Client × World} (unbound : binding? e x = none)
    (unset : ∀ path lines, Command.ofEnvelope e ≠ .ok (.setBreakpoints path lines)) :
    Kept x (opening e x) := by
  cases read : Command.ofEnvelope e with
  | error cause => rw [opening_of_error read]; rfl
  | ok command =>
      rw [binding?, read] at unbound
      cases command with
      | launch a =>
          obtain ⟨cause, c, w, refused⟩ := error_of_successor? unbound
          have kept := overlooks_kept.logIn a x.1 x.2
          rw [ExceptT.run, Staged.ends_of refused] at kept
          rw [opening_of_launch read, ExceptT.run, Staged.ends, Staged.attempt_bind_error refused]
          exact kept
      | attach a =>
          obtain ⟨cause, c, w, refused⟩ := error_of_successor? unbound
          have kept := overlooks_kept.onDebug (Debug.attach a.sessionId a.process a.message) x.1 x.2
          rw [ExceptT.run, Staged.ends_of refused] at kept
          rw [opening_of_answer read (by simp), ExceptT.run, Staged.ends, answer,
            Staged.attempt_bind_error refused]
          exact kept
      | _ =>
          rw [opening_of_answer read (by simp)]
          refine overlooks_kept.answer (by simp) (fun path lines same => ?_) x.1 x.2
          exact absurd (read.trans (congrArg _ same)) (unset path lines)

/-- A session that a request has bound stays to the end of the request. -/
theorem bound_handle {e : Envelope} {x y : Client × World} (binds : binding? e x = some y) :
    (Staged.ends (handle e) x.1 x.2).1.debug.session ≠ none := by
  obtain ⟨c, w⟩ := x
  have bound := (binds_of_binding binds).bound
  have opens := opening_of_binding binds
  have after := (speaks_after_perform e c w).debug
  rw [ExceptT.run] at after
  rw [after]
  rcases binding_cases binds with ⟨a, s, read, logged⟩ | ⟨a, _, read, _⟩
  · have login := logIn_apply a c w
    rw [Staged.ends, logged] at login
    cases login with
    | granted s _ _ _ debug _ =>
        have held := debug ▸ c.debug.session_boundTo s
        have begins := (begins_launch e logged held).session
        rw [Staged.ends, perform_of_ok read]
        exact begins.trans_ne bound
  · have applied := (covers_works.serves.applyPending y.1 y.2).session
    have spoken := (speaks_after_answer e (.attach a) .proceed c w).debug
    rw [opening_of_answer read (by simp)] at opens
    rw [opens] at spoken
    rw [Staged.ends, perform_of_ok read]
    exact (congrArg DebugSession.session spoken).trans_ne (applied.trans_ne bound)

theorem outcome_of_succeeds {message : Json} {e : Envelope} (request : request? message = some e)
    {c : Client} {w : World} (succeeds : (receipt message c w).Succeeds e) :
    ∃ body, outcome e (c.noted message, w) = .ok body := by
  have plain := plain_of_request? request
  have wrote := (replied e (c.noted message) w).wrote
  rw [Receipt.Succeeds, after_receipt request, wrote.ledger,
    show (receipt message c w).before = (c.noted message, w) from rfl, List.drop_left] at succeeds
  obtain ⟨m, member, tells⟩ := List.mem_filterMap.mp succeeds
  obtain ⟨text, body, rfl⟩ := response_of_mark? tells
  have answers : (Message.response e.seq e.command true text body).answer? ≠ none := by
    rw [Message.answer?, if_neg plain]
    exact Option.some_ne_none _
  rcases List.mem_append.mp member with early | member
  · exact absurd (answer?_of_mem_spoken _ _ _ _ early) answers
  · rcases List.mem_cons.mp member with first | late
    · cases comes : outcome e (c.noted message, w) with
      | ok body => exact ⟨body, rfl⟩
      | error cause =>
          rw [reply_of_error comes] at first
          cases first
    · rcases refused_of_mem_sequel late with silent | ⟨text, refused⟩
      · exact absurd silent answers
      · cases refused

/-- A launch or an attachment that succeeds has bound a session. -/
theorem binding_of_outcome {e : Envelope} {x : Client × World}
    (named : e.command = "launch" ∨ e.command = "attach") {body : Option Json}
    (comes : outcome e x = .ok body) : ∃ y, binding? e x = some y := by
  cases read : Command.ofEnvelope e with
  | error cause =>
      rw [outcome, read] at comes
      cases comes
  | ok command =>
      rw [command_of_ofEnvelope read] at named
      rw [binding?, read]
      cases command with
      | launch a =>
          rw [outcome, read] at comes
          obtain ⟨s, logged, -⟩ := of_map_eq_ok comes
          exact ⟨Staged.ends (logIn a) x.1 x.2, successor?_of_ok (a := s) (by rw [← logged]; rfl)⟩
      | attach a =>
          rw [outcome_of_answer read (by simp) (by simp)] at comes
          have ran : answer (.attach a) x.1 x.2 =
              ((.ok body, (answer (.attach a) x.1 x.2).1.2), (answer (.attach a) x.1 x.2).2) := by
            rw [← comes]
            rfl
          obtain ⟨_, c, w, attached, _⟩ := Staged.of_attempt_bind_ok ran
          exact ⟨(c, w), successor?_of_ok attached⟩
      | step kind => cases kind <;> simp [Command.name] at named
      | _ => simp [Command.name] at named

/-! ## What is pending -/

def pendingIds (documents : List (String × List PendingBreakpoint)) : List Nat :=
  documents.flatMap fun document => document.2.map PendingBreakpoint.id

section

variable {path : String} {breakpoints : List PendingBreakpoint}
  {documents : List (String × List PendingBreakpoint)}

/-- A document that is new comes last, and any other keeps its place. -/
theorem keepPending_cases (path : String) (breakpoints : List PendingBreakpoint)
    (documents : List (String × List PendingBreakpoint)) :
    (path ∉ documents.map Prod.fst ∧
      keepPending path breakpoints documents = documents ++ [(path, breakpoints)]) ∨
    ∃ before old after, path ∉ before.map Prod.fst ∧
      documents = before ++ (path, old) :: after ∧
      keepPending path breakpoints documents = before ++ (path, breakpoints) :: after := by
  induction documents with
  | nil => exact .inl ⟨nofun, rfl⟩
  | cons document documents ih =>
      obtain ⟨p, bs⟩ := document
      rw [keepPending]
      by_cases same : p = path
      · subst same
        rw [if_pos rfl]
        exact .inr ⟨[], bs, documents, nofun, rfl, rfl⟩
      · rw [if_neg same]
        have other : path ≠ p := Ne.symm same
        rcases ih with ⟨fresh, last⟩ | ⟨before, old, after, fresh, eq, replaced⟩
        · exact .inl ⟨by simpa [other] using fresh, by rw [last]; rfl⟩
        · exact .inr ⟨(p, bs) :: before, old, after, by simpa [other] using fresh, by rw [eq]; rfl,
            by rw [replaced]; rfl⟩

theorem lookup_keepPending (p : String) : (keepPending path breakpoints documents).lookup p =
    ([(path, breakpoints)].lookup p).or (documents.lookup p) := by
  induction documents with
  | nil => simp [keepPending]
  | cons document documents ih =>
      obtain ⟨q, bs⟩ := document
      rw [keepPending]
      by_cases same : q = path
      · subst same
        rw [if_pos rfl]
        simp only [List.lookup_cons]
        split <;> simp
      · rw [if_neg same, List.lookup_cons, ih]
        simp only [List.lookup_cons]
        split <;> split <;> simp_all

theorem nodup_keys_keepPending (distinct : (documents.map Prod.fst).Nodup) :
    ((keepPending path breakpoints documents).map Prod.fst).Nodup := by
  rcases keepPending_cases path breakpoints documents with
    ⟨fresh, last⟩ | ⟨before, old, after, _, eq, replaced⟩
  · have first : (path :: documents.map Prod.fst).Nodup := List.nodup_cons.mpr ⟨fresh, distinct⟩
    rw [last, List.map_append]
    exact (List.perm_append_singleton path _).symm.nodup first
  · rw [replaced]
    rw [eq] at distinct
    simpa using distinct

theorem pendingIds_append (first second : List (String × List PendingBreakpoint)) :
    pendingIds (first ++ second) = pendingIds first ++ pendingIds second := List.flatMap_append

theorem nodup_pendingIds_keepPending {later : List Nat}
    (distinct : (pendingIds documents ++ pendingIds [(path, breakpoints)] ++ later).Nodup) :
    (pendingIds (keepPending path breakpoints documents) ++ later).Nodup := by
  rcases keepPending_cases path breakpoints documents with
    ⟨_, last⟩ | ⟨before, old, after, _, eq, replaced⟩
  · rwa [last, pendingIds_append]
  · rw [replaced, ← List.singleton_append, pendingIds_append, pendingIds_append]
    rw [eq, ← List.singleton_append, pendingIds_append, pendingIds_append] at distinct
    -- The old ids go, and the new ones stand where they stood.
    have fewer : (pendingIds before ++ pendingIds after ++ pendingIds [(path, breakpoints)] ++
        later).Nodup := by
      refine distinct.sublist (.append_right (.append_right (.append_left ?_ _) _) _)
      exact List.sublist_append_right _ _
    refine (List.Perm.append_right later ?_).nodup fewer
    rw [List.append_assoc]
    exact List.perm_append_comm.append_left _

/-- What is pending after these requests: for each document the breakpoints of the last request for it,
all with ids of their own. -/
structure Stands (requests documents : List (String × List PendingBreakpoint)) : Prop where
  keys : (documents.map Prod.fst).Nodup
  last : ∀ path, documents.lookup path = requests.reverse.lookup path
  ids : (pendingIds documents).Nodup

theorem stands_foldl {requests : List (String × List PendingBreakpoint)}
    (distinct : (pendingIds requests).Nodup) :
    Stands requests (requests.foldl (fun kept r => keepPending r.1 r.2 kept) []) := by
  have keeps (earlier : List (String × List PendingBreakpoint))
      (keys : (earlier.map Prod.fst).Nodup)
      (ids : (pendingIds earlier ++ pendingIds requests).Nodup) :
      let documents := requests.foldl (fun kept r => keepPending r.1 r.2 kept) earlier
      (documents.map Prod.fst).Nodup ∧ (pendingIds documents).Nodup ∧
        ∀ path, documents.lookup path = (requests.reverse.lookup path).or (earlier.lookup path) := by
    clear distinct
    induction requests generalizing earlier with
    | nil => exact ⟨keys, by simpa [pendingIds] using ids, fun _ => rfl⟩
    | cons r requests ih =>
        obtain ⟨path, breakpoints⟩ := r
        rw [← List.singleton_append, pendingIds_append, ← List.append_assoc] at ids
        obtain ⟨keys, ids, last⟩ :=
          ih _ (nodup_keys_keepPending keys) (nodup_pendingIds_keepPending ids)
        refine ⟨keys, ids, fun p => ?_⟩
        rw [List.foldl_cons, last, lookup_keepPending, List.reverse_cons, List.lookup_append,
          Option.or_assoc]
  obtain ⟨keys, ids, last⟩ := keeps [] .nil distinct
  exact ⟨keys, fun path => by rw [last]; exact Option.or_none, ids⟩

end

/-! ## Runs -/

/-- The breakpoints that a message has asked for, with the ids that the answer shows. -/
def Receipt.requested? (x : Receipt) : Option (String × List PendingBreakpoint) :=
  (asked? x.message).map fun (_, path, lines) =>
    (path, (((issued x.written).map Int.toNat).zip lines).map fun (id, line) => ⟨id, line⟩)

theorem map_toNat_ofNat (ids : List Nat) : (ids.map Int.ofNat).map Int.toNat = ids := by
  rw [List.map_map]
  exact List.map_id ids

theorem pendingIds_requested? {x : Receipt} (numbered : x.Numbered) :
    pendingIds x.requested?.toList = (issued x.written).map Int.toNat := by
  obtain ⟨shows, ids, _⟩ := numbered
  rw [Receipt.ShowsBreakpoints] at shows
  rw [Receipt.lines] at ids
  cases asked : asked? x.message with
  | none =>
      rw [asked] at shows
      rw [Receipt.requested?, asked, issued, shows]
      rfl
  | some request =>
      obtain ⟨e, path, lines⟩ := request
      have length : ((issued x.written).map Int.toNat).length ≤ lines.length := by
        simp [ids, asked]
      rw [Receipt.requested?, asked]
      show (((((issued x.written).map Int.toNat).zip lines).map _).map PendingBreakpoint.id) ++ [] = _
      rw [List.append_nil, List.map_map]
      exact List.map_fst_zip length

theorem filterMap_requested?_cons (x : Receipt) (xs : List Receipt) :
    (x :: xs).filterMap Receipt.requested? =
      x.requested?.toList ++ xs.filterMap Receipt.requested? := by
  cases requested : x.requested? <;> simp [requested]

theorem pendingIds_filterMap {xs : List Receipt} (numbered : ∀ x ∈ xs, x.Numbered) :
    pendingIds (xs.filterMap Receipt.requested?) =
      (issued (xs.flatMap Receipt.written)).map Int.toNat := by
  induction xs with
  | nil => rfl
  | cons x xs ih =>
      obtain ⟨first, others⟩ := List.forall_mem_cons.mp numbered
      rw [filterMap_requested?_cons, pendingIds_append, ih others, pendingIds_requested? first,
        List.flatMap_cons, issued_append, List.map_append]

/-- While no session is bound, only requests for breakpoints change what is pending. -/
theorem pending_receipt {message : Json} {c : Client} {w : World} (silent : w.asides = [])
    (unbound : c.debug.session = none)
    (free : (receipt message c w).after.1.debug.session = none) :
    (receipt message c w).after.1.pending =
      (receipt message c w).requested?.toList.foldl
        (fun kept r => keepPending r.1 r.2 kept) c.pending := by
  have numbered := numbered_receipt message c silent
  cases request : request? message with
  | none =>
      have other : asked? message = none := by rw [asked?, request]; rfl
      rw [Receipt.requested?, show (receipt message c w).message = message from rfl, other]
      exact overlooks_kept.receive_of_none request c w
  | some e =>
      have after : Kept (opening e (c.noted message, w)) (receipt message c w).after := by
        rw [after_receipt request]
        exact overlooks_kept.after_opening e _
      cases asked : asked? message with
      | none =>
          have unset := not_setBreakpoints_of_asked? asked request
          rw [after_receipt request] at free
          have unbinding : binding? e (c.noted message, w) = none := by
            cases binds : binding? e (c.noted message, w) with
            | none => rfl
            | some y => exact absurd free (bound_handle binds)
          rw [Receipt.requested?, show (receipt message c w).message = message from rfl, asked]
          exact after.trans (kept_opening unbinding unset)
      | some asks =>
          obtain ⟨e', path, lines⟩ := asks
          obtain ⟨request', read⟩ := asked?_eq_some_iff.mp asked
          cases request.symm.trans request'
          have ids : (issued (receipt message c w).written).map Int.toNat =
              List.range' c.nextBreakpoint lines.length := by
            rw [(numbered_receipt message c silent).issued, map_toNat_ofNat, Receipt.lines,
              show (receipt message c w).message = message from rfl, asked]
            rfl
          have opens : (opening e (c.noted message, w)).1 =
              (setBreakpoints path lines (c.noted message) w).1.2 := by
            rw [opening_of_answer read (by simp)]
            rfl
          have unbound : (c.noted message).debug.session = none := unbound
          rw [after, opens, setBreakpoints_of_unbound unbound, Receipt.requested?, ids,
            show (receipt message c w).message = message from rfl, asked]
          rfl

/-- Before a session is bound, what is pending is what was asked for. -/
theorem pending_of_history {messages : List Json} {c : Client} {w : World} (silent : w.asides = [])
    (unbound : c.debug.session = none) {earlier later : List Receipt} {x : Receipt}
    (run : history messages c w = earlier ++ x :: later)
    (free : ∀ y ∈ earlier, y.after.1.debug.session = none) :
    ∃ c' w', x = receipt x.message c' w' ∧ c'.pending =
      (earlier.filterMap Receipt.requested?).foldl (fun kept r => keepPending r.1 r.2 kept)
        c.pending := by
  induction messages generalizing c w earlier with
  | nil => simp [history] at run
  | cons message messages ih =>
      rw [history] at run
      cases earlier with
      | nil =>
          obtain ⟨rfl, -⟩ := List.cons.inj run
          exact ⟨c, w, rfl, rfl⟩
      | cons y earlier =>
          obtain ⟨rfl, rest⟩ := List.cons.inj run
          obtain ⟨now, free⟩ := List.forall_mem_cons.mp free
          split at rest
          · next proceeds =>
              have quiet : (receipt message c w).after.2.asides = [] :=
                silent_receive proceeds silent
              obtain ⟨c', w', same, pending⟩ := ih quiet now rest free
              refine ⟨c', w', same, ?_⟩
              rw [pending, pending_receipt silent unbound now, filterMap_requested?_cons,
                List.foldl_append]
          · cases earlier <;> cases rest

/-- For every VM and every sequence of messages of a new client, as long as no session is bound: a
request to launch or to attach that succeeds tells of the breakpoints that are pending, which are for
each document those of the last request for it. Each of a document whose method is found in its turn is
told of once, in the order of the request, also when it was not set; those of the other documents are
not told of at all. -/
theorem pending_told_where_found (messages : List Json) (c : Client) (w : World)
    (new : c.pending = [] ∧ c.debug.session = none ∧ w.asides = [])
    (earlier : List Receipt) (x : Receipt) (later : List Receipt)
    (run : history messages c w = earlier ++ x :: later)
    (free : ∀ y ∈ earlier, y.after.1.debug.session = none)
    (e : Envelope) (request : request? x.message = some e)
    (named : e.command = "launch" ∨ e.command = "attach") (succeeds : x.Succeeds e) :
    ∃ start told, binding? e x.before = some start ∧
      Stands (earlier.filterMap Receipt.requested?) start.1.pending ∧
      changes (opening e x.before).2 = changes x.before.2 ++ told ∧
      List.Forall₂ TellsOf (toldOf start.1.pending (start.1.debug, start.2)) told := by
  obtain ⟨nothing, unbound, silent⟩ := new
  obtain ⟨c', w', same, pending⟩ := pending_of_history silent unbound run free
  have numbered : ∀ y ∈ earlier, y.Numbered := by
    intro y member
    have member : y ∈ history messages c w := by
      rw [run]
      exact List.mem_append_left _ member
    obtain ⟨c', w', same, silent⟩ := receipt_of_mem_history (P := fun y => y.2.asides = [])
      (fun _ _ _ proceeds silent => silent_receive proceeds silent) silent member
    rw [same]
    exact numbered_receipt y.message c' silent
  have distinct : (pendingIds (earlier.filterMap Receipt.requested?)).Nodup := by
    have ids := congrArg (List.map Int.toNat) (issued_history messages c silent)
    rw [run, List.flatMap_append, issued_append, List.map_append, map_toNat_ofNat] at ids
    have all := List.nodup_range' (s := c.nextBreakpoint)
      (n := ((earlier ++ x :: later).flatMap Receipt.lines).length)
    rw [← ids] at all
    rw [pendingIds_filterMap numbered]
    exact (List.nodup_append.mp all).1
  rw [same] at succeeds request ⊢
  obtain ⟨body, comes⟩ := outcome_of_succeeds request succeeds
  obtain ⟨start, binds⟩ := binding_of_outcome named comes
  obtain ⟨_, kept, still⟩ := binds_of_binding binds
  obtain ⟨told, waits, tells⟩ :=
    changes_applyEach start.1.pending { start.1 with pending := [] } start.2
  refine ⟨start, told, binds, ?_, ?_, tells⟩
  · rw [kept]
    show Stands _ c'.pending
    rw [pending, nothing]
    exact stands_foldl distinct
  · have same : changes start.2 = changes w' := still
    rw [show (receipt x.message c' w').before.2 = w' from rfl, ← same, ← waits]
    exact congrArg (fun y : Client × World => changes y.2) (opening_of_binding binds)

def eventName? : Message → Option String
  | .event name _ => some name
  | .response .. => none

/-- The VM knows every class and method, and lets breakpoints be set. -/
def locating : World where
  vm := fun _ _ c => match c with
    | .resolveSymbol .. => .ok (.ofNat 134145)
    | .newSymbol _ => .ok (.ofNat 264705)
    | .perform _ => .ok (.ofNat 130817)
    | .fetchUtf8Bytes .. => .ok { bytes := [97, 32, 98], required := 3 }
    | .fetchSize _ => .ok 1
    | .fetchOops .. => .ok [.ofSmallInt 3]
    | c => Foreign.refuse (.other "") c
  live := [⟨1, ⟨1⟩, ""⟩]
  horizon := 0

/-- Of two documents one names a method. Its breakpoints are told of, and those of the other are not. -/
theorem pending_told_of_one :
    let first := breakpointsMessage 1 "nowhere" [7]
    let second := breakpointsMessage 2 "/Globals/Calculator/instance/running/run" [1, 2]
    let y := receipt first {} locating
    let z := receipt second y.after.1 y.after.2
    let x := receipt (attachMessage 3) z.after.1 z.after.2
    ∃ e start told, request? x.message = some e ∧ binding? e x.before = some start ∧
      Stands ([y, z].filterMap Receipt.requested?) start.1.pending ∧
      pendingIds start.1.pending = [1, 2, 3] ∧
      List.Forall₂ TellsOf (toldOf start.1.pending (start.1.debug, start.2)) told ∧
      told.map Prod.fst = [2, 3] := by
  intro first second y z x
  have run : history [first, second, attachMessage 3] {} locating = [y, z] ++ x :: [] := by
    rw [history, if_pos (by decide +kernel), history, if_pos (by decide +kernel), history, history,
      ite_self]
    rfl
  have read : (request? x.message).map (fun e => (e.seq, e.command)) = some (3, "attach") := by
    decide +kernel
  obtain ⟨e, request, fields⟩ := Option.map_eq_some_iff.mp read
  obtain ⟨seq, command⟩ := Prod.mk.inj fields
  have succeeds : x.Succeeds e := by
    rw [Receipt.Succeeds, seq, command]
    decide +kernel
  obtain ⟨start, told, binds, stands, waits, tells⟩ :=
    pending_told_where_found [first, second, attachMessage 3] {} locating ⟨rfl, rfl, rfl⟩ [y, z] x []
      run (by decide +kernel) e request (.inr command) succeeds
  have computed : ((request? x.message).bind fun e => (binding? e x.before).map fun start =>
      (pendingIds start.1.pending, (changes (opening e x.before).2).map Prod.fst)) =
        some ([1, 2, 3], [2, 3]) := by
    decide +kernel
  have empty : changes x.before.2 = [] := by decide +kernel
  rw [request, Option.bind_some, binds, Option.map_some, waits, empty] at computed
  obtain ⟨ids, told_ids⟩ := Prod.mk.inj (Option.some.inj computed)
  exact ⟨e, start, told, request, binds, stands, ids, tells, told_ids⟩

/-- The attachment succeeds, and the client is not told of the breakpoint that was pending. -/
theorem pending_given_up :
    let final := (serve [breakpointsMessage 1 "nowhere" [7], attachMessage 2] {} completing).1.2
    final.ledger = [.answer 1 "setBreakpoints" true, .answer 2 "attach" true, .stopped] ∧
      issued (final.wire.map Prod.snd) = [1] ∧
      (final.wire.filterMap fun m => eventName? m.2) = ["stopped"] := by
  decide +kernel

end StoneDebug.Adapter.Client
