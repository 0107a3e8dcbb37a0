import Mathlib.Data.List.Nodup
import StoneDebug.Proofs.Session.Logins

/-! # The book of the registry

Every login that the VM grants is entered into a book, and so is every session that is given up. The
sessions of the registry are those entered and not given up, under ids that grow with every attempt to
log in, and the calls to the VM are those of the book: no session is logged out twice.
-/

namespace StoneDebug

def Access.opened? : Access → Option Handle
  | .opened handle => some handle
  | .closed _ => none

def Access.closed? : Access → Option Handle
  | .opened _ => none
  | .closed handle => some handle

/-- What was done to the sessions of the VM so far. -/
def World.accesses (w : World) : List Access := w.transcript.filterMap Exchange.access?

theorem Accesses.accesses_eq {accesses : List Access} {w w' : World} (h : Accesses accesses w w') :
    w'.accesses = w.accesses ++ accesses := by
  obtain ⟨added, eq, rfl⟩ := h
  rw [World.accesses, eq, List.filterMap_append, World.accesses]

theorem Exchange.access?_logout {x : Exchange} {handle : Handle}
    (made : (x.handle, x.call) = (some handle, Call.logout)) :
    x.access? = some (.closed handle) := by
  obtain ⟨_, _, reply⟩ := x
  cases made
  rfl

namespace Registry

/-! ## Requests -/

inductive Request where
  | login (params : LoginParams)
  | logout (id : Nat)
  | logoutAll
  | get (id : Nat)

@[reducible] def Request.Answer : Request → Type
  | login _ => Except CallError Session
  | logout _ => Except CallError Unit
  | logoutAll => Unit
  | get _ => Option Session

def Request.serve : (r : Request) → Act r.Answer
  | login params => Registry.login params
  | logout id => Registry.logout id
  | logoutAll => Registry.logoutAll
  | get id => get? id

structure Turn where
  request : Request
  answer : request.Answer

def serveAll : List Request → Act (List Turn)
  | [] => pure []
  | r :: rest => do
    let answer ← r.serve
    let turns ← serveAll rest
    return ⟨r, answer⟩ :: turns

/-! ## The book -/

structure Book where
  /-- How often somebody tried to log in. -/
  attempts : Nat := 0
  /-- Every session that there ever was, in the order of the logins. -/
  opened : List Session := []
  /-- Every session that was given up, in the order of the logouts. -/
  closed : List Session := []

namespace Book

def listed (b : Book) : List Session := b.opened.filter (· ∉ b.closed)

/-- Gives up some of the sessions that are listed. -/
def close (b : Book) (which : Session → Bool) : Book :=
  { b with closed := b.closed ++ b.listed.filter which }

/-- Enters a turn. Whether the VM agrees counts for a login only. -/
def enter (b : Book) : Turn → Book
  | ⟨.login _, .ok s⟩ => { b with attempts := b.attempts + 1, opened := b.opened ++ [s] }
  | ⟨.login _, .error _⟩ => { b with attempts := b.attempts + 1 }
  | ⟨.logout id, _⟩ => b.close fun s => s.id == id
  | ⟨.logoutAll, _⟩ => b.close fun _ => true
  | ⟨.get _, _⟩ => b

/-- Ids grow with the attempts to log in, and nothing is given up that was not there or was given up
before. -/
structure Sound (b : Book) : Prop where
  growing : b.opened.Pairwise fun s s' => s.id < s'.id
  within : ∀ s ∈ b.opened, 1 ≤ s.id ∧ s.id ≤ b.attempts
  once : b.closed.Nodup
  known : b.closed ⊆ b.opened

variable {b : Book}

theorem mem_listed {s : Session} : s ∈ b.listed ↔ s ∈ b.opened ∧ s ∉ b.closed := by
  simp [listed]

theorem listed_close (which : Session → Bool) :
    (b.close which).listed = b.listed.filter fun s => !which s := by
  simp only [listed, close, List.filter_filter]
  refine List.filter_congr fun s member => ?_
  by_cases gone : s ∈ b.closed <;> simp [gone, member]

namespace Sound

theorem attempt (sound : b.Sound) : { b with attempts := b.attempts + 1 }.Sound where
  growing := sound.growing
  within s member :=
    let ⟨low, high⟩ := sound.within s member
    ⟨low, Nat.le_succ_of_le high⟩
  once := sound.once
  known := sound.known

theorem granted (sound : b.Sound) {s : Session} (next : s.id = b.attempts + 1) :
    { b with attempts := b.attempts + 1, opened := b.opened ++ [s] }.Sound where
  growing := by
    refine List.pairwise_append.mpr ⟨sound.growing, List.pairwise_singleton .., ?_⟩
    intro t member s' last
    rw [List.mem_singleton.mp last, next]
    exact Nat.lt_succ_of_le (sound.within t member).2
  within t member := by
    rcases List.mem_append.mp member with old | last
    · exact sound.attempt.within t old
    · rw [List.mem_singleton.mp last, next]
      exact ⟨Nat.le_add_left .., Nat.le_refl _⟩
  once := sound.once
  known := fun t member => List.mem_append_left _ (sound.known member)

theorem listed_growing (sound : b.Sound) : b.listed.Pairwise fun s s' => s.id < s'.id :=
  sound.growing.filter _

theorem nodup_listed_ids (sound : b.Sound) : (b.listed.map Session.id).Nodup :=
  List.pairwise_map.mpr (sound.listed_growing.imp Nat.ne_of_lt)

theorem eq_of_id_eq (sound : b.Sound) {s t : Session} (member : s ∈ b.listed)
    (member' : t ∈ b.listed) (same : s.id = t.id) : s = t :=
  List.inj_on_of_nodup_map sound.nodup_listed_ids member member' same

theorem closing (sound : b.Sound) (which : Session → Bool) : (b.close which).Sound where
  growing := sound.growing
  within := sound.within
  once := by
    refine List.nodup_append.mpr ⟨sound.once, sound.nodup_listed_ids.of_map.filter _, ?_⟩
    rintro s gone _ left rfl
    exact (mem_listed.mp (List.mem_filter.mp left).1).2 gone
  known := by
    refine List.append_subset.mpr ⟨sound.known, fun s member => ?_⟩
    exact (mem_listed.mp (List.mem_filter.mp member).1).1

/-- The session of a new login is listed behind all others. -/
theorem listed_granted (sound : b.Sound) {s : Session} (next : s.id = b.attempts + 1) :
    { b with attempts := b.attempts + 1, opened := b.opened ++ [s] }.listed = b.listed ++ [s] := by
  have fresh : s ∉ b.closed := by
    intro gone
    have high := (sound.within s (sound.known gone)).2
    omega
  simp [listed, fresh]

/-- A listed session is found under its id. -/
theorem find?_eq_some_iff (sound : b.Sound) {id : Nat} {s : Session} :
    b.listed.find? (fun s => s.id == id) = some s ↔ s ∈ b.listed ∧ s.id = id := by
  constructor
  · intro found
    exact ⟨List.mem_of_find?_eq_some found, by simpa using List.find?_some found⟩
  · rintro ⟨member, rfl⟩
    cases found : b.listed.find? (fun t => t.id == s.id) with
    | none => simpa using List.find?_eq_none.mp found s member
    | some t =>
        have same : t.id = s.id := by simpa using List.find?_some found
        rw [sound.eq_of_id_eq (List.mem_of_find?_eq_some found) member same]

/-- No other session is listed under its id. -/
theorem filter_listed (sound : b.Sound) {s : Session} (member : s ∈ b.listed) :
    b.listed.filter (fun t => t.id == s.id) = [s] := by
  have distinct := sound.nodup_listed_ids.of_map.filter fun t => t.id == s.id
  have alone := List.perm_ext_iff_of_nodup distinct (List.nodup_singleton s)
  refine List.perm_singleton.mp (alone.mpr fun t => ?_)
  simp only [List.mem_filter, beq_iff_eq, List.mem_singleton]
  constructor
  · exact fun ⟨member', same⟩ => sound.eq_of_id_eq member' member same
  · rintro rfl
    exact ⟨member, rfl⟩

end Sound

end Book

/-! ## Logging out everywhere -/

def LogsOut (ss : List Session) (w w' : World) : Prop :=
  ∃ added, w'.transcript = w.transcript ++ added ∧
    added.map (fun x => (x.handle, x.call)) = ss.map fun s => (some s.handle, Call.logout)

theorem LogsOut.accesses {ss : List Session} {w w' : World} (h : LogsOut ss w w') :
    Accesses (ss.map fun s => .closed s.handle) w w' := by
  obtain ⟨added, eq, made⟩ := h
  refine ⟨added, eq, ?_⟩
  clear eq
  induction ss generalizing added with
  | nil => rw [List.map_eq_nil_iff.mp made]; rfl
  | cons s ss ih =>
      obtain ⟨x, added, rfl, first, others⟩ := List.map_eq_cons_iff.mp made
      rw [List.filterMap_cons_some (Exchange.access?_logout first), ih added others, List.map_cons]

/-- One session after the other is given up, whatever the VM answers. -/
theorem logoutAll_apply {w : World} (distinct : (w.live.map Session.id).Nodup) :
    ∃ w', logoutAll w = ((), w') ∧ w'.live = [] ∧ w'.nextId = w.nextId ∧ LogsOut w.live w w' := by
  let drop (id : Nat) : Act Unit := do
    discard <| warnOn "logout: " CallError.message (← logout id)
  suffices loop : ∀ (ss : List Session) (w : World), w.live = ss → (ss.map Session.id).Nodup →
      ∃ w', (ss.map Session.id).forM drop w = ((), w') ∧ w'.live = [] ∧ w'.nextId = w.nextId ∧
        LogsOut ss w w' from
    loop w.live w rfl distinct
  intro ss
  induction ss with
  | nil => exact fun w live _ => ⟨w, rfl, live, rfl, [], by simp, rfl⟩
  | cons s ss ih =>
      intro w live distinct
      obtain ⟨unlike, distinct⟩ := List.nodup_cons.mp distinct
      have found : w.live.find? (fun t => t.id == s.id) = some s := by simp [live]
      obtain ⟨w₁, ran, live₁, nextId₁, asked⟩ := logout_of_found found
      let w₂ := (drop s.id w).2
      have told : Gathers w₁ w₂ := by
        have stepped : w₂ = (warnOn "logout: " CallError.message
            (w.vm w.transcript (some s.handle) .logout) w₁).2 := by
          show (warnOn _ _ (logout s.id w).1 (logout s.id w).2).2 = _
          rw [ran]
        rw [stepped]
        exact Along.warnOn lasts_gathers gathers_logRecord _ _ _ w₁
      have rest : w₂.live = ss := by
        have others : ∀ t ∈ ss, t.id ≠ s.id := fun t member same =>
          unlike (same ▸ List.mem_map_of_mem member)
        rw [told.live, live₁, live, List.filter_cons_of_neg (by simp),
          List.filter_eq_self.mpr (by simpa using others)]
      obtain ⟨w', ran', live', nextId', added, eq, made⟩ := ih w₂ rest distinct
      let x : Exchange := ⟨some s.handle, .logout, w.vm w.transcript (some s.handle) .logout⟩
      refine ⟨w', ran', live', ?_, x :: added, ?_, congrArg (List.cons (x.handle, x.call)) made⟩
      · rw [nextId', told.nextId, nextId₁]
      · rw [eq, told.transcript, asked, List.append_assoc, List.singleton_append]

/-! ## Turns -/

/-- The registry and the VM stand as the book says. -/
structure Kept (b : Book) (w : World) : Prop extends b.Sound where
  live : w.live = b.listed
  nextId : w.nextId = b.attempts + 1
  opened : w.accesses.filterMap Access.opened? = b.opened.map Session.handle
  closed : w.accesses.filterMap Access.closed? = b.closed.map Session.handle

variable {b : Book} {w : World}

/-- Sessions are given up, and the VM was asked to log them out. -/
theorem Kept.closing {w' : World} (kept : Kept b w) {which : Session → Bool}
    (live : w'.live = w.live.filter fun s => !which s) (nextId : w'.nextId = w.nextId)
    (accesses : Accesses ((b.listed.filter which).map fun s => .closed s.handle) w w') :
    Kept (b.close which) w' where
  toSound := kept.toSound.closing which
  live := by rw [live, kept.live, Book.listed_close]
  nextId := nextId.trans kept.nextId
  opened := by
    rw [accesses.accesses_eq, List.filterMap_append, kept.opened, Book.close]
    simp [Function.comp_def, Access.opened?]
  closed := by
    rw [accesses.accesses_eq, List.filterMap_append, kept.closed, Book.close, List.map_append]
    simp [Function.comp_def, Access.closed?]

theorem Kept.login (kept : Kept b w) (params : LoginParams) :
    Kept (b.enter ⟨.login params, (Registry.login params w).1⟩) (Registry.login params w).2 := by
  have applied := login_apply params w
  rcases ran : Registry.login params w with ⟨cause | s, w'⟩
  · rw [ran] at applied
    obtain ⟨-, live, nextId, accesses⟩ := applied
    have same : w'.accesses = w.accesses := by rw [accesses.accesses_eq, List.append_nil]
    exact ⟨kept.toSound.attempt, live.trans kept.live, by rw [nextId, kept.nextId]; rfl,
      by rw [same]; exact kept.opened, by rw [same]; exact kept.closed⟩
  · rw [ran] at applied
    obtain ⟨-, id, live, nextId, accesses⟩ := applied
    have next : s.id = b.attempts + 1 := id.trans kept.nextId
    refine ⟨kept.toSound.granted next, ?_, by rw [nextId, kept.nextId]; rfl, ?_, ?_⟩
    · rw [live, kept.live]
      exact (kept.toSound.listed_granted next).symm
    · rw [accesses.accesses_eq, List.filterMap_append, kept.opened]
      simp [Book.enter, Access.opened?]
    · rw [accesses.accesses_eq, List.filterMap_append, kept.closed]
      exact List.append_nil _

theorem Kept.logout (kept : Kept b w) (id : Nat) :
    Kept (b.close fun s => s.id == id) (Registry.logout id w).2 := by
  cases found : w.live.find? (fun s => s.id == id) with
  | none =>
      have others : ∀ s ∈ b.listed, ¬(s.id == id) = true :=
        List.find?_eq_none.mp (kept.live ▸ found)
      have left : w.live.filter (fun s => !(s.id == id)) = w.live :=
        List.filter_eq_self.mpr (by simpa [kept.live] using others)
      rw [logout_of_unknown found]
      refine kept.closing left.symm rfl ?_
      rw [List.filter_eq_nil_iff.mpr others]
      exact .of_transcript_eq rfl
  | some s =>
      obtain ⟨member, rfl⟩ := kept.toSound.find?_eq_some_iff.mp (kept.live ▸ found)
      obtain ⟨result, w', ran, live, nextId, accesses⟩ := logout_apply found
      rw [ran]
      refine kept.closing live nextId ?_
      rw [kept.toSound.filter_listed member]
      exact accesses

theorem Kept.serve (kept : Kept b w) (r : Request) :
    Kept (b.enter ⟨r, (r.serve w).1⟩) (r.serve w).2 := by
  cases r with
  | login params => exact kept.login params
  | logout id => exact kept.logout id
  | logoutAll =>
      obtain ⟨w', ran, live, nextId, asked⟩ :=
        logoutAll_apply (kept.live ▸ kept.toSound.nodup_listed_ids)
      show Kept (b.close fun _ => true) (logoutAll w).2
      rw [ran]
      rw [kept.live] at asked
      exact kept.closing (by simpa using live) nextId (by simpa using asked.accesses)
  | get id => exact kept

theorem Kept.serveAll (kept : Kept b w) (requests : List Request) :
    Kept ((serveAll requests w).1.foldl Book.enter b) (serveAll requests w).2 := by
  induction requests generalizing b w with
  | nil => exact kept
  | cons r rest ih => exact ih (kept.serve r)

/-! ## The law -/

/-- What a registry with this book shows, what it asked of the VM, and what its next turn does. -/
structure Lawful (b : Book) (w : World) : Prop extends b.Sound where
  ids : (ids w).1 = b.listed.map Session.id
  get : ∀ id s, (get? id w).1 = some s ↔ s ∈ b.listed ∧ s.id = id
  /-- The sessions entered are the logins that the VM has granted. -/
  granted : w.accesses.filterMap Access.opened? = b.opened.map Session.handle
  /-- The sessions given up are those that the VM was asked to log out, each one once. -/
  sent : w.accesses.filterMap Access.closed? = b.closed.map Session.handle
  login : ∀ params,
    (login params w).1.map Session.handle = w.vm w.transcript none (.login params)
  unknown : ∀ id, (∀ s ∈ b.listed, s.id ≠ id) → logout id w = (.error .notLoggedIn, w)
  /-- The answer of the VM is the result, and makes no other difference. -/
  logout : ∀ s ∈ b.listed, ∃ w', logout s.id w = (w.vm w.transcript (some s.handle) .logout, w') ∧
    (Registry.ids w').1 = (b.listed.map Session.id).erase s.id ∧
      w'.transcript = w.transcript ++
        [⟨some s.handle, .logout, w.vm w.transcript (some s.handle) .logout⟩]
  logoutAll : (Registry.ids (logoutAll w).2).1 = [] ∧ LogsOut b.listed w (logoutAll w).2

theorem Kept.lawful (kept : Kept b w) : Lawful b w where
  toSound := kept.toSound
  ids := congrArg (List.map Session.id) kept.live
  get id s := by
    rw [← kept.toSound.find?_eq_some_iff, ← kept.live]
    rfl
  granted := kept.opened
  sent := kept.closed
  login params := by
    have applied := login_apply params w
    rcases ran : Registry.login params w with ⟨cause | s, w'⟩ <;> rw [ran] at applied
    · exact applied.1.symm
    · exact applied.1.symm
  unknown id others := by
    refine logout_of_unknown (List.find?_eq_none.mpr ?_)
    simpa [kept.live] using others
  logout s member := by
    have found : w.live.find? (fun t => t.id == s.id) = some s := by
      rw [kept.live]
      exact kept.toSound.find?_eq_some_iff.mpr ⟨member, rfl⟩
    obtain ⟨w', ran, live, -, asked⟩ := logout_of_found found
    refine ⟨w', ran, ?_, asked⟩
    show w'.live.map Session.id = _
    rw [live, kept.live, kept.toSound.nodup_listed_ids.erase_eq_filter, List.filter_map]
    rfl
  logoutAll := by
    obtain ⟨w', ran, live, -, asked⟩ :=
      logoutAll_apply (kept.live ▸ kept.toSound.nodup_listed_ids)
    rw [ran]
    exact ⟨congrArg (List.map Session.id) live, kept.live ▸ asked⟩

/-- Whatever is asked of a new registry and whatever the VM answers, its sessions are those entered and
not given up. Ids are never larger than the number of attempts to log in, so fewer than 2^32 - 1 of
these need no more than 32 bits. -/
theorem serveAll_lawful (vm : VM) (horizon : Nat) (requests : List Request) :
    let (turns, w) := serveAll requests { vm, horizon }
    Lawful (turns.foldl Book.enter {}) w := by
  have empty : Kept {} { vm, horizon } := ⟨⟨.nil, nofun, .nil, nofun⟩, rfl, rfl, rfl, rfl⟩
  exact (empty.serveAll requests).lawful

end Registry

end StoneDebug
