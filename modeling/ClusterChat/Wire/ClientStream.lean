/-
# The client stream

`ChatServer::onMessage` keeps the bytes of a client connection that no NUL has
closed yet. Each call appends what arrived, parses and dispatches every closed
segment that is not empty, and erases what it has scanned. Errors of the parser
and of the handlers are JSON exceptions, swallowed segment by segment.

The service is a parameter: a state, and the handler of each message id.
-/

import ClusterChat.Data.Json
import ClusterChat.Data.Search
import ClusterChat.Streams.Cut

namespace ClusterChat

/-- A handler moves the state of the service and may throw along the way. -/
abbrev MsgHandler (σ : Type) := Json → σ → Except JsonException Unit × σ

/-- The handler of a message id; without one the message is only logged. -/
def getHandler {σ : Type} (msgHandlerMap : Int32 → Option (MsgHandler σ)) (msgId : Int32) :
    MsgHandler σ :=
  (msgHandlerMap msgId).getD fun _ service => (.ok (), service)

/-- A client connection and the service behind it, with the segments it tried
to parse and dispatch. -/
structure ClientSession (σ : Type) where
  context : ConnContext
  service : σ
  attempts : List Bytes

/-- `string::find('\0', start)`. -/
def findNul (pending : Bytes) (start : ℕ) : Option ℕ :=
  ((pending.drop start).findIdx? (· = nul)).map (start + ·)

/-- The bytes between two positions. -/
def segment (pending : Bytes) (start stop : ℕ) : Bytes := (pending.drop start).take (stop - start)

/-- What a hit of `findNul` means: a segment without NUL, the NUL, the rest. -/
theorem findNul_some {pending : Bytes} {start stop : ℕ}
    (found : findNul pending start = some stop) :
    start ≤ stop ∧ stop < pending.length ∧ nul ∉ segment pending start stop ∧
      pending.drop start = segment pending start stop ++ nul :: pending.drop (stop + 1) := by
  obtain ⟨offset, index, rfl⟩ := Option.map_eq_some_iff.mp found
  obtain ⟨front, back, split, rfl, free⟩ := findIdx?_split index
  have bounded : front.length < (pending.drop start).length := by
    rw [split, List.length_append, List.length_cons]
    omega
  have inside : start + front.length < pending.length := by
    rw [List.length_drop] at bounded
    omega
  have text : segment pending start (start + front.length) = front := by
    rw [segment, Nat.add_sub_cancel_left, split, List.take_left]
  have rest : pending.drop (start + front.length + 1) = back := by
    rw [Nat.add_assoc, ← List.drop_drop, split, ← List.drop_drop, List.drop_left]
    rfl
  refine ⟨Nat.le_add_right _ _, inside, ?_, ?_⟩
  · rw [text]
    exact free
  · rw [text, rest]
    exact split

/-- A miss of `findNul` means that no NUL is left. -/
theorem findNul_none {pending : Bytes} {start : ℕ} (missed : findNul pending start = none) :
    nul ∉ pending.drop start := by
  have none := Option.map_eq_none_iff.mp missed
  rw [List.findIdx?_eq_none_iff] at none
  intro member
  simpa using none nul member

section Service

variable {σ : Type} (lib : JsonLibrary) (msgHandlerMap : Int32 → Option (MsgHandler σ))

/-- Parse a segment and run the handler of its message id. -/
def dispatch (bytes : Bytes) (service : σ) : Except JsonException Unit × σ :=
  match lib.parse bytes with
  | .error thrown => (.error thrown, service)
  | .ok js =>
    match js.field "msgId" >>= Json.getInt with
    | .error thrown => (.error thrown, service)
    | .ok msgId => getHandler msgHandlerMap msgId js service

/-- One attempt to parse and dispatch. An exception is logged and dropped; what
the handler did before it stays done. -/
def attempt (bytes : Bytes) (session : ClientSession σ) : ClientSession σ :=
  { session with
    service := (dispatch lib msgHandlerMap bytes session.service).2
    attempts := session.attempts ++ [bytes] }

/-- The scanning loop: the position it stops at, and the session there. -/
def scan (pending : Bytes) (start : ℕ) (session : ClientSession σ) : ℕ × ClientSession σ :=
  match found : findNul pending start with
  | none => (start, session)
  | some stop =>
    if start < stop then
      scan pending (stop + 1) (attempt lib msgHandlerMap (segment pending start stop) session)
    else scan pending (stop + 1) session
termination_by pending.length - start
decreasing_by all_goals have := findNul_some found; omega

/-- `ChatServer::onMessage`. -/
def onMessage (session : ClientSession σ) (buffer : Bytes) : ClientSession σ :=
  let pending := session.context.pending ++ buffer
  let (start, session) := scan lib msgHandlerMap pending 0 session
  { session with context := .string (if 0 < start then pending.drop start else pending) }

/-- `ChatServer::onConnection` on a connection that came up. -/
def onConnected (service : σ) : ClientSession σ := ⟨.string [], service, []⟩

/-- Attempts on a list of segments, in order; empty ones are passed over. -/
def attemptAll (segments : List Bytes) (session : ClientSession σ) : ClientSession σ :=
  (segments.filter (· ≠ [])).foldl (fun session bytes => attempt lib msgHandlerMap bytes session)
    session

variable {lib msgHandlerMap}

@[simp] theorem attempt_context (bytes : Bytes) (session : ClientSession σ) :
    (attempt lib msgHandlerMap bytes session).context = session.context := rfl

@[simp] theorem attemptAll_nil (session : ClientSession σ) :
    attemptAll lib msgHandlerMap [] session = session := rfl

theorem attemptAll_cons (bytes : Bytes) (segments : List Bytes) (session : ClientSession σ) :
    attemptAll lib msgHandlerMap (bytes :: segments) session =
      attemptAll lib msgHandlerMap segments
        (if bytes ≠ [] then attempt lib msgHandlerMap bytes session else session) := by
  by_cases empty : bytes = [] <;> simp [attemptAll, empty]

theorem attemptAll_append (first second : List Bytes) (session : ClientSession σ) :
    attemptAll lib msgHandlerMap (first ++ second) session =
      attemptAll lib msgHandlerMap second (attemptAll lib msgHandlerMap first session) := by
  simp [attemptAll]

/-- Attempts read the context nowhere, so it may be filled in later. -/
theorem attemptAll_withContext (segments : List Bytes) (session : ClientSession σ)
    (context : ConnContext) :
    attemptAll lib msgHandlerMap segments { session with context := context } =
      { attemptAll lib msgHandlerMap segments session with context := context } := by
  induction segments generalizing session with
  | nil => rfl
  | cons bytes segments ih =>
    rw [attemptAll_cons, attemptAll_cons]
    by_cases empty : bytes = []
    · rw [if_neg (not_not.mpr empty), if_neg (not_not.mpr empty)]
      exact ih session
    · rw [if_pos empty, if_pos empty]
      exact ih (attempt lib msgHandlerMap bytes session)

variable (lib msgHandlerMap) in
/-- The segments that were attempted, and what the service became. -/
theorem attemptAll_eq (segments : List Bytes) (session : ClientSession σ) :
    (attemptAll lib msgHandlerMap segments session).attempts =
        session.attempts ++ segments.filter (· ≠ []) ∧
      (attemptAll lib msgHandlerMap segments session).service =
        (segments.filter (· ≠ [])).foldl
          (fun service bytes => (dispatch lib msgHandlerMap bytes service).2) session.service := by
  induction segments generalizing session with
  | nil => simp
  | cons bytes segments ih =>
    rw [attemptAll_cons]
    by_cases empty : bytes = []
    · simpa [empty] using ih session
    · simpa [empty, attempt] using ih (attempt lib msgHandlerMap bytes session)

theorem scan_hit {pending : Bytes} {start stop : ℕ} (found : findNul pending start = some stop)
    (session : ClientSession σ) :
    scan lib msgHandlerMap pending start session =
      if start < stop then
        scan lib msgHandlerMap pending (stop + 1)
          (attempt lib msgHandlerMap (segment pending start stop) session)
      else scan lib msgHandlerMap pending (stop + 1) session := by
  rw [scan]
  split
  · rename_i missed
    rw [missed] at found
    cases found
  · rename_i other found'
    obtain rfl : other = stop := Option.some.inj (found'.symm.trans found)
    rfl

variable (lib msgHandlerMap) in
/-- **The loop cuts.** From a position on, the loop attempts the closed
segments of what is left and stops at the open rest. -/
theorem scan_spec (pending : Bytes) (start : ℕ) (session : ClientSession σ) :
    (scan lib msgHandlerMap pending start session).2 =
        attemptAll lib msgHandlerMap (cut nul (pending.drop start)).1 session ∧
      pending.drop (scan lib msgHandlerMap pending start session).1 =
        (cut nul (pending.drop start)).2 := by
  induction start, session using scan.induct lib msgHandlerMap pending with
  | case1 start session missed =>
    have rest := cut_of_notMem (findNul_none missed)
    rw [scan, rest]
    split
    · exact ⟨rfl, rfl⟩
    · rename_i stop found
      rw [missed] at found
      cases found
  | case2 start session stop found long ih =>
    obtain ⟨-, inside, free, form⟩ := findNul_some found
    have nonempty : segment pending start stop ≠ [] := by
      rw [segment, ← List.length_pos_iff_ne_nil, List.length_take, List.length_drop]
      omega
    rw [scan_hit found, if_pos long, form, cut_piece free, attemptAll_cons, if_pos nonempty]
    exact ih
  | case3 start session stop found short ih =>
    obtain ⟨-, -, free, form⟩ := findNul_some found
    have empty : segment pending start stop = [] := by
      rw [segment, Nat.sub_eq_zero_of_le (Nat.not_lt.mp short), List.take_zero]
    rw [scan_hit found, if_neg short, form, cut_piece free, attemptAll_cons,
      if_neg (not_not.mpr empty)]
    exact ih

/-- One call: the pending bytes and the new ones are cut together. -/
theorem onMessage_spec (session : ClientSession σ) (buffer : Bytes) :
    onMessage lib msgHandlerMap session buffer =
      { attemptAll lib msgHandlerMap (cut nul (session.context.pending ++ buffer)).1 session with
        context := .string (cut nul (session.context.pending ++ buffer)).2 } := by
  obtain ⟨attempted, rest⟩ :=
    scan_spec lib msgHandlerMap (session.context.pending ++ buffer) 0
      session
  rw [List.drop_zero] at attempted rest
  rw [onMessage, ← attempted, ← rest]
  by_cases moved : 0 < (scan lib msgHandlerMap (session.context.pending ++ buffer) 0 session).1
  · simp only [if_pos moved]
  · simp only [Nat.eq_zero_of_not_pos moved, List.drop_zero, lt_irrefl, if_false]

variable (lib msgHandlerMap) in
/-- The calls on one connection, chunk by chunk. -/
theorem onMessage_foldl (chunks : List Bytes) {pending : Bytes} (free : nul ∉ pending)
    (session : ClientSession σ) (context : session.context = .string pending) :
    chunks.foldl (onMessage lib msgHandlerMap) session =
      { attemptAll lib msgHandlerMap (cutChunks nul pending chunks).1 session with
        context := .string (cutChunks nul pending chunks).2 } := by
  induction chunks generalizing pending session with
  | nil =>
    simp only [List.foldl_nil, cutChunks, attemptAll_nil, ← context]
  | cons chunk chunks ih =>
    rw [List.foldl_cons, onMessage_spec, context, ConnContext.pending,
      ih (free_cut (pending ++ chunk)).2 _ rfl, attemptAll_withContext, cutChunks,
      attemptAll_append]

variable (lib msgHandlerMap) in
/-- **Client framing.** However a stream is cut into chunks, the service sees
one attempt for each non-empty closed segment, in order and on exactly its
bytes, each in the state the attempts before it left, whatever they threw; the
pending bytes are those after the last NUL. -/
theorem onMessage_segments (service : σ) (chunks : List Bytes) :
    let final := chunks.foldl (onMessage lib msgHandlerMap) (onConnected service)
    let segments := (cut nul chunks.flatten).1.filter (· ≠ [])
    final.attempts = segments ∧
      final.service =
        segments.foldl (fun service bytes => (dispatch lib msgHandlerMap bytes service).2) service ∧
      final.context = .string (cut nul chunks.flatten).2 := by
  intro final segments
  have run : final = _ :=
    onMessage_foldl lib msgHandlerMap chunks List.not_mem_nil (onConnected service) rfl
  rw [cutChunks_eq_cut chunks List.not_mem_nil, List.nil_append] at run
  obtain ⟨attempts, services⟩ :=
    attemptAll_eq lib msgHandlerMap (cut nul chunks.flatten).1 (onConnected service)
  rw [run]
  exact ⟨attempts, services, rfl⟩

/-! ### Which handlers are called -/

variable (lib) in
/-- The message that a segment is, with its id. -/
def messageOf (bytes : Bytes) : Option (Int32 × Json) :=
  match lib.parse bytes with
  | .error _ => none
  | .ok js =>
    match js.field "msgId" >>= Json.getInt with
    | .error _ => none
    | .ok msgId => some (msgId, js)

variable (lib msgHandlerMap) in
/-- A segment that is no message leaves the service as it is. -/
theorem dispatch_messageOf (bytes : Bytes) (service : σ) :
    (dispatch lib msgHandlerMap bytes service).2 =
      ((messageOf lib bytes).map fun message =>
        (getHandler msgHandlerMap message.1 message.2 service).2).getD service := by
  rw [dispatch, messageOf]
  cases lib.parse bytes with
  | error thrown => rfl
  | ok js =>
    dsimp only
    cases js.field "msgId" >>= Json.getInt <;> rfl

theorem foldl_dispatch (segments : List Bytes) (service : σ) :
    segments.foldl (fun service bytes => (dispatch lib msgHandlerMap bytes service).2) service =
      (segments.filterMap (messageOf lib)).foldl
        (fun service message => (getHandler msgHandlerMap message.1 message.2 service).2)
        service := by
  induction segments generalizing service with
  | nil => rfl
  | cons bytes segments ih =>
    rw [List.foldl_cons, dispatch_messageOf, ih, List.filterMap_cons]
    cases messageOf lib bytes <;> rfl

variable (lib msgHandlerMap) in
/-- **The handlers are called** with the messages among the segments, in order, each with the whole
JSON value that was parsed and by the id in it. -/
theorem onMessage_handlers (service : σ) (chunks : List Bytes) :
    (chunks.foldl (onMessage lib msgHandlerMap) (onConnected service)).service =
      (((cut nul chunks.flatten).1.filter (· ≠ [])).filterMap (messageOf lib)).foldl
        (fun service message => (getHandler msgHandlerMap message.1 message.2 service).2)
        service := by
  have run := onMessage_foldl lib msgHandlerMap chunks List.not_mem_nil (onConnected service) rfl
  rw [cutChunks_eq_cut chunks List.not_mem_nil, List.nil_append] at run
  obtain ⟨-, services⟩ :=
    attemptAll_eq lib msgHandlerMap (cut nul chunks.flatten).1 (onConnected service)
  rw [run]
  exact services.trans (foldl_dispatch _ service)

end Service

end ClusterChat
