/-
# Wormhole.Guardian.Multiplexer — observation requests, on their way to the watchers.

The p2p service puts the observation requests that reach the node into one channel, `obsvReqC`, and waits when
that is full (`node/pkg/p2p/p2p.go`).  One goroutine (`node/cmd/guardiand/node.go`) hands them over, one after
another, on a channel for each chain that has no buffer: it waits for the watcher of the chain.  Which channels
are made and which watchers are started are two lists of the source.  `neverBlocked_iff` says which sequences of
requests never leave one waiting behind another that nobody will take, in `obsvReqC` or in front of it.
-/
import Mathlib
import Wormhole.Lib.Transition
import Wormhole.Guardian.Vaa

namespace Wormhole.Guardian

open Wormhole.Lib.Transition

/-! ## Channels and watchers -/

/-- The flags `--testnetMode` and `--unsafeDevMode`. -/
structure Mode where
  testnetMode : Bool
  unsafeDevMode : Bool

def ChainIDSolana : ChainID := 1
def ChainIDEthereum : ChainID := 2
def ChainIDTerra : ChainID := 3
def ChainIDBSC : ChainID := 4
def ChainIDPolygon : ChainID := 5
def ChainIDAvalanche : ChainID := 6
def ChainIDOasis : ChainID := 7
def ChainIDFantom : ChainID := 10
def ChainIDKarura : ChainID := 11
def ChainIDAcala : ChainID := 12
def ChainIDAlephium : ChainID := 13
def ChainIDEthereumRopsten : ChainID := 10001

/-- The keys of `chainObsvReqC`: the chains that have a channel. -/
def chainObsvReqC (mode : Mode) : List ChainID :=
  [ChainIDSolana, ChainIDEthereum, ChainIDTerra, ChainIDBSC, ChainIDPolygon, ChainIDAvalanche,
    ChainIDOasis] ++
  (if mode.testnetMode then [ChainIDFantom, ChainIDKarura, ChainIDAcala, ChainIDEthereumRopsten] else []) ++
  (if mode.unsafeDevMode then [ChainIDAlephium] else [])

/-- The chains whose watchers the node starts.  The two of Solana are commented out. -/
def startedWatchers (mode : Mode) : List ChainID :=
  [ChainIDEthereum, ChainIDBSC, ChainIDPolygon, ChainIDAvalanche, ChainIDOasis, ChainIDFantom] ++
  (if mode.testnetMode then [ChainIDEthereumRopsten, ChainIDKarura, ChainIDAcala] else []) ++
  [ChainIDTerra] ++
  (if mode.unsafeDevMode then [ChainIDAlephium] else [])

/-- The watcher of the chain is started, and with a channel: on a nil channel it receives nothing. -/
def Receives (mode : Mode) (chain : ChainID) : Prop :=
  chain ∈ startedWatchers mode ∧ chain ∈ chainObsvReqC mode

instance (mode : Mode) (chain : ChainID) : Decidable (Receives mode chain) := by
  unfold Receives
  infer_instance

/-- **The channel that nobody reads** is the one of Solana, in every mode. -/
theorem mem_chainObsvReqC_iff {mode : Mode} {chain : ChainID} :
    chain ∈ chainObsvReqC mode ↔ Receives mode chain ∨ chain = ChainIDSolana := by
  obtain ⟨testnetMode, unsafeDevMode⟩ := mode
  cases testnetMode <;> cases unsafeDevMode <;> simp [Receives, chainObsvReqC, startedWatchers] <;> grind

theorem not_receives_solana {mode : Mode} : ¬Receives mode ChainIDSolana := by
  obtain ⟨testnetMode, unsafeDevMode⟩ := mode
  cases testnetMode <;> cases unsafeDevMode <;> decide

/-! ## The multiplexer -/

structure ObservationRequest where
  chainId : UInt32
  txHash : List UInt8
  deriving DecidableEq

/-- `vaa.ChainID(req.ChainId)`. -/
def ObservationRequest.chain (req : ObservationRequest) : ChainID := req.chainId.toUInt16

/-- The capacity of `obsvReqC`. -/
def obsvReqCapacity : Nat := 50

structure Multiplexer where
  /-- what the network will still bring -/
  incoming : List ObservationRequest
  /-- what has reached the node: the p2p service is in `obsvReqC <- r`, the rest is behind it -/
  arrived : List ObservationRequest
  obsvReqC : List ObservationRequest
  /-- the request in `channel <- req` -/
  sending : Option ObservationRequest
  /-- the watchers that wait in their `select` -/
  ready : ChainID → Bool

inductive MultiplexerEvent where
  | arrive
  | post
  | read
  | receive
  | watcher (chain : ChainID) (ready : Bool)

namespace Multiplexer

/-- Nothing has arrived, and no watcher runs yet. -/
def start (incoming : List ObservationRequest) : Multiplexer where
  incoming
  arrived := []
  obsvReqC := []
  sending := none
  ready := fun _ => false

/-- What can happen: a request reaches the node, the p2p service posts one, the multiplexer reads one, a watcher
receives the one that is being sent, a watcher starts waiting or stops. -/
def step (mode : Mode) (s : Multiplexer) : MultiplexerEvent → Option Multiplexer
  | .arrive =>
    match s.incoming with
    | [] => none
    | req :: incoming => some { s with incoming, arrived := s.arrived ++ [req] }
  | .post =>
    match s.arrived with
    | [] => none
    | req :: arrived =>
      if s.obsvReqC.length < obsvReqCapacity then
        some { s with arrived, obsvReqC := s.obsvReqC ++ [req] }
      else none
  | .read =>
    match s.sending, s.obsvReqC with
    | none, req :: obsvReqC =>
      if req.chain ∈ chainObsvReqC mode then some { s with obsvReqC, sending := some req }
      else -- unknown chain ID for reobservation request
        some { s with obsvReqC }
    | _, _ => none
  | .receive =>
    match s.sending with
    | none => none
    | some req =>
      if Receives mode req.chain ∧ s.ready req.chain then
        -- the watcher is busy with it
        some { s with sending := none, ready := Function.update s.ready req.chain false }
      else none
  | .watcher chain ready =>
    if Receives mode chain then some { s with ready := Function.update s.ready chain ready } else none

/-- Any of the events, in any order. -/
abbrev Reaches (mode : Mode) : Multiplexer → Multiplexer → Prop := Run (step mode) fun _ _ => True

/-- The request that is being sent will never be received. -/
def Stuck (mode : Mode) (s : Multiplexer) (req : ObservationRequest) : Prop :=
  s.sending = some req ∧ ∀ t, Reaches mode s t → t.sending = some req

/-- **Blocked.** A request whose watcher is waiting for one is behind a request that is stuck: in the channel,
or in front of it. -/
def Blocked (mode : Mode) (s : Multiplexer) : Prop :=
  ∃ req waiting, Stuck mode s req ∧ waiting ∈ s.obsvReqC ++ s.arrived ∧ Receives mode waiting.chain ∧
    s.ready waiting.chain = true

/-- **The sequences that block nothing.** The first request for Solana is followed by none for a chain whose
watcher receives requests. -/
def Unhindered (mode : Mode) (reqs : List ObservationRequest) : Prop :=
  ∀ req ∈ (reqs.dropWhile fun req => req.chain ≠ ChainIDSolana).drop 1, ¬Receives mode req.chain

instance (mode : Mode) (reqs : List ObservationRequest) : Decidable (Unhindered mode reqs) := by
  unfold Unhindered
  infer_instance

/-! ## What is sent and what is stuck -/

/-- The requests that nobody has taken or dropped, in the order of their arrival. -/
def pending (s : Multiplexer) : List ObservationRequest :=
  s.sending.toList ++ (s.obsvReqC ++ (s.arrived ++ s.incoming))

/-- What holds in every reachable state: no request for Solana has gone through, and what is being sent has a
channel. -/
structure Ordered (mode : Mode) (reqs : List ObservationRequest) (s : Multiplexer) : Prop where
  line : ∃ gone, reqs = gone ++ s.pending ∧ ∀ req ∈ gone, req.chain ≠ ChainIDSolana
  channel : ∀ req, s.sending = some req → req.chain ∈ chainObsvReqC mode

section Step

variable {mode : Mode} {reqs : List ObservationRequest} {s t : Multiplexer} {req : ObservationRequest}
  {event : MultiplexerEvent}

theorem Ordered.start : Ordered mode reqs (start reqs) :=
  ⟨⟨[], rfl, by simp⟩, by simp [Multiplexer.start]⟩

/-- A request that is taken or dropped is not for Solana. -/
theorem Ordered.gone (h : Ordered mode reqs s) (hpending : s.pending = req :: t.pending)
    (hreq : req.chain ≠ ChainIDSolana) (hchannel : ∀ req, t.sending = some req → req.chain ∈ chainObsvReqC mode) :
    Ordered mode reqs t := by
  obtain ⟨gone, hline, hgone⟩ := h.line
  refine ⟨⟨gone ++ [req], ?_, ?_⟩, hchannel⟩
  · rw [hline, hpending, List.append_assoc]
    rfl
  · intro req' hmem
    rcases List.mem_append.mp hmem with hold | hlast
    · exact hgone req' hold
    · rw [List.mem_singleton.mp hlast]
      exact hreq

/-- **Step.** -/
theorem Ordered.step (h : Ordered mode reqs s) (hstep : Multiplexer.step mode s event = some t) :
    Ordered mode reqs t := by
  cases event with
  | arrive =>
    simp only [Multiplexer.step] at hstep
    split at hstep
    · cases hstep
    · rename_i req incoming hincoming
      rw [← Option.some.inj hstep]
      refine ⟨?_, h.channel⟩
      simpa [pending, hincoming] using h.line
  | post =>
    simp only [Multiplexer.step] at hstep
    split at hstep
    · cases hstep
    · rename_i req arrived harrived
      split at hstep
      · rw [← Option.some.inj hstep]
        refine ⟨?_, h.channel⟩
        simpa [pending, harrived] using h.line
      · cases hstep
  | read =>
    simp only [Multiplexer.step] at hstep
    split at hstep
    · rename_i req obsvReqC hsending hqueue
      split at hstep
      · rename_i hmem
        rw [← Option.some.inj hstep]
        refine ⟨?_, fun req' hreq' => ?_⟩
        · simpa [pending, hsending, hqueue] using h.line
        · rwa [← Option.some.inj hreq']
      · rename_i hunknown
        rw [← Option.some.inj hstep]
        refine h.gone (show s.pending = req :: _ by simp [pending, hsending, hqueue]) ?_ h.channel
        intro hsolana
        exact hunknown (mem_chainObsvReqC_iff.mpr (.inr hsolana))
    · cases hstep
  | receive =>
    simp only [Multiplexer.step] at hstep
    split at hstep
    · cases hstep
    · rename_i req hsending
      split at hstep
      · rename_i hreceives
        rw [← Option.some.inj hstep]
        refine h.gone (show s.pending = req :: _ by simp [pending, hsending]) ?_ (by simp)
        intro hsolana
        rw [hsolana] at hreceives
        exact not_receives_solana hreceives.1
      · cases hstep
  | watcher chain ready =>
    simp only [Multiplexer.step] at hstep
    split at hstep
    · rw [← Option.some.inj hstep]
      exact ⟨h.line, h.channel⟩
    · cases hstep

/-- **Run.** -/
theorem Ordered.reaches (hrun : Reaches mode (Multiplexer.start reqs) s) : Ordered mode reqs s :=
  hrun.invariant (I := Ordered mode reqs) (fun _ _ _ h _ hstep => h.step hstep) .start

/-- A request that no watcher receives stays where it is. -/
theorem stuck_of_not_receives (hsending : s.sending = some req) (hno : ¬Receives mode req.chain) :
    Stuck mode s req := by
  refine ⟨hsending, fun t hrun => ?_⟩
  refine hrun.invariant (I := fun s => s.sending = some req) (fun s event t hs _ hstep => ?_) hsending
  cases event with
  | arrive =>
    simp only [Multiplexer.step] at hstep
    split at hstep
    · cases hstep
    · rw [← Option.some.inj hstep]
      exact hs
  | post =>
    simp only [Multiplexer.step] at hstep
    split at hstep
    · cases hstep
    · split at hstep
      · rw [← Option.some.inj hstep]
        exact hs
      · cases hstep
  | read => simp [Multiplexer.step, hs] at hstep
  | receive => simp [Multiplexer.step, hs, hno] at hstep
  | watcher chain ready =>
    simp only [Multiplexer.step] at hstep
    split at hstep
    · rw [← Option.some.inj hstep]
      exact hs
    · cases hstep

/-- One whose chain has a watcher is received as soon as that waits for one. -/
theorem not_stuck_of_receives (hreceives : Receives mode req.chain) : ¬Stuck mode s req := by
  rintro ⟨hsending, hstuck⟩
  have hwaits : Multiplexer.step mode s (.watcher req.chain true) =
      some { s with ready := Function.update s.ready req.chain true } := if_pos hreceives
  have hgone := hstuck _ (((Run.refl s).snoc trivial hwaits).snoc (a := .receive) trivial
    (by simp [Multiplexer.step, hsending, hreceives]; rfl))
  cases hgone

/-! ## Ways through -/

/-- Whatever is sent or waits, requests reach the node. -/
theorem reaches_arrive (arriving incoming arrived obsvReqC : List ObservationRequest)
    (sending : Option ObservationRequest) (ready : ChainID → Bool) :
    Reaches mode ⟨arriving ++ incoming, arrived, obsvReqC, sending, ready⟩
      ⟨incoming, arrived ++ arriving, obsvReqC, sending, ready⟩ := by
  induction arriving generalizing arrived with
  | nil =>
    rw [List.append_nil]
    exact Run.refl _
  | cons req arriving ih =>
    have harrive : Multiplexer.step mode ⟨req :: arriving ++ incoming, arrived, obsvReqC, sending, ready⟩ .arrive =
        some ⟨arriving ++ incoming, arrived ++ [req], obsvReqC, sending, ready⟩ := rfl
    have hrest := ih (arrived ++ [req])
    rw [List.append_assoc] at hrest
    exact ((Run.refl _).snoc trivial harrive).trans hrest

/-- The next request is in the channel, when nothing is in front of it. -/
theorem reaches_post (req : ObservationRequest) (incoming : List ObservationRequest)
    (sending : Option ObservationRequest) (ready : ChainID → Bool) :
    Reaches mode ⟨req :: incoming, [], [], sending, ready⟩ ⟨incoming, [], [req], sending, ready⟩ := by
  have hpost : Multiplexer.step mode ⟨incoming, [req], [], sending, ready⟩ .post =
      some ⟨incoming, [], [req], sending, ready⟩ := rfl
  exact (reaches_arrive [req] incoming [] [] sending ready).snoc trivial hpost

/-- What is not for Solana goes through. -/
theorem reaches_idle (gone incoming : List ObservationRequest) (ready : ChainID → Bool)
    (hgone : ∀ req ∈ gone, req.chain ≠ ChainIDSolana) :
    ∃ ready', Reaches mode ⟨gone ++ incoming, [], [], none, ready⟩ ⟨incoming, [], [], none, ready'⟩ := by
  induction gone generalizing ready with
  | nil => exact ⟨ready, Run.refl _⟩
  | cons req gone ih =>
    obtain ⟨hreq, hrest⟩ := List.forall_mem_cons.mp hgone
    have hpost := @reaches_post mode req (gone ++ incoming) none ready
    by_cases hchannel : req.chain ∈ chainObsvReqC mode
    · -- its watcher gets ready and takes it
      have hreceives := (mem_chainObsvReqC_iff.mp hchannel).resolve_right hreq
      have hread : Multiplexer.step mode ⟨gone ++ incoming, [], [req], none, ready⟩ .read =
          some ⟨gone ++ incoming, [], [], some req, ready⟩ := if_pos hchannel
      have hwaits : Multiplexer.step mode ⟨gone ++ incoming, [], [], some req, ready⟩
          (.watcher req.chain true) =
            some ⟨gone ++ incoming, [], [], some req, Function.update ready req.chain true⟩ := if_pos hreceives
      have hreceive : Multiplexer.step mode
          ⟨gone ++ incoming, [], [], some req, Function.update ready req.chain true⟩ .receive =
            some ⟨gone ++ incoming, [], [], none,
              Function.update (Function.update ready req.chain true) req.chain false⟩ :=
        if_pos ⟨hreceives, Function.update_self ..⟩
      obtain ⟨ready', hrun⟩ := ih (Function.update (Function.update ready req.chain true) req.chain false) hrest
      have hthrough := ((hpost.snoc trivial hread).snoc trivial hwaits).snoc trivial hreceive
      exact ⟨ready', hthrough.trans hrun⟩
    · -- it is dropped
      have hread : Multiplexer.step mode ⟨gone ++ incoming, [], [req], none, ready⟩ .read =
          some ⟨gone ++ incoming, [], [], none, ready⟩ := if_neg hchannel
      obtain ⟨ready', hrun⟩ := ih ready hrest
      exact ⟨ready', (hpost.snoc trivial hread).trans hrun⟩

end Step

/-! ## Which requests block -/

/-- What comes after the first request for Solana. -/
theorem drop_dropWhile {gone rest : List ObservationRequest} {req : ObservationRequest}
    (hgone : ∀ req ∈ gone, req.chain ≠ ChainIDSolana) (hreq : req.chain = ChainIDSolana) :
    ((gone ++ req :: rest).dropWhile fun req => req.chain ≠ ChainIDSolana).drop 1 = rest := by
  rw [List.dropWhile_append_of_pos (by simpa using hgone), List.dropWhile_cons_of_neg (by simp [hreq])]
  rfl

/-- **Which sequences block nothing.** Whatever the mode: no reachable state has a request for a chain whose
watcher waits behind one that is never received, exactly when nothing that a watcher receives follows the
first request for Solana. -/
theorem neverBlocked_iff (mode : Mode) (reqs : List ObservationRequest) :
    (∀ s, Reaches mode (start reqs) s → ¬Blocked mode s) ↔ Unhindered mode reqs := by
  constructor
  · intro hnever waiting hwaiting hreceives
    -- the first request for Solana, which there has to be
    have hsplit := @List.takeWhile_append_dropWhile _ (fun req => req.chain ≠ ChainIDSolana) reqs
    have hgone : ∀ req ∈ reqs.takeWhile fun req => req.chain ≠ ChainIDSolana,
        req.chain ≠ ChainIDSolana := fun req hreq => by simpa using List.mem_takeWhile_imp hreq
    generalize hfirst : reqs.dropWhile (fun req => req.chain ≠ ChainIDSolana) = tail at hsplit hwaiting
    cases tail with
    | nil => simp at hwaiting
    | cons req rest =>
      have hreq : req.chain = ChainIDSolana := by
        have hhead := List.head?_dropWhile_not (fun req => req.chain ≠ ChainIDSolana) reqs
        rw [hfirst] at hhead
        simpa using hhead
      obtain ⟨ready, hidle⟩ := @reaches_idle mode (reqs.takeWhile fun req => req.chain ≠ ChainIDSolana)
        (req :: rest) (fun _ => false) hgone
      rw [hsplit] at hidle
      have hread : step mode ⟨rest, [], [req], none, ready⟩ .read = some ⟨rest, [], [], some req, ready⟩ :=
        if_pos (mem_chainObsvReqC_iff.mpr (.inr hreq))
      have harrive := @reaches_arrive mode rest [] [] [] (some req) ready
      rw [List.append_nil] at harrive
      have hready : step mode ⟨[], [] ++ rest, [], some req, ready⟩ (.watcher waiting.chain true) =
          some ⟨[], [] ++ rest, [], some req, Function.update ready waiting.chain true⟩ := if_pos hreceives
      have hrun := ((hidle.trans ((reaches_post req rest none ready).snoc trivial hread)).trans harrive).snoc
        trivial hready
      refine hnever _ hrun ⟨req, waiting, stuck_of_not_receives rfl ?_, hwaiting, hreceives,
        Function.update_self ..⟩
      rw [hreq]
      exact not_receives_solana
  · rintro hunhindered s hrun ⟨req, waiting, hstuck, hwaiting, hreceives, -⟩
    obtain ⟨⟨gone, hline, hgone⟩, hchannel⟩ := Ordered.reaches hrun
    have hreq : req.chain = ChainIDSolana :=
      (mem_chainObsvReqC_iff.mp (hchannel req hstuck.1)).resolve_left fun h => not_stuck_of_receives h hstuck
    rw [pending, hstuck.1] at hline
    rw [Unhindered, hline] at hunhindered
    have hafter := @drop_dropWhile gone (s.obsvReqC ++ (s.arrived ++ s.incoming)) req hgone hreq
    refine hunhindered waiting ?_ hreceives
    show waiting ∈ ((gone ++ req :: (s.obsvReqC ++ (s.arrived ++ s.incoming))).dropWhile
      fun req => req.chain ≠ ChainIDSolana).drop 1
    rw [hafter, ← List.append_assoc]
    exact List.mem_append_left _ hwaiting

/-! ## Inputs -/

def sampleRequest (chainId : UInt32) : ObservationRequest := ⟨chainId, List.replicate 32 0x01⟩

/-- Requests for Ethereum, for a chain that has no channel, and then for Solana. -/
def solanaLast : List ObservationRequest := [sampleRequest 2, sampleRequest 8, sampleRequest 1]

example : Unhindered ⟨false, false⟩ solanaLast := by decide

/-- A request for Solana is being sent, and one for Ethereum waits although its watcher is ready. -/
def behindSolana : Multiplexer where
  incoming := []
  arrived := []
  obsvReqC := [sampleRequest 2]
  sending := some (sampleRequest 1)
  ready := Function.update (fun _ => false) ChainIDEthereum true

/-- **A request for Solana blocks all others.** -/
theorem solanaFirst_blocked :
    Reaches ⟨false, false⟩ (start [sampleRequest 1, sampleRequest 2]) behindSolana ∧
    Blocked ⟨false, false⟩ behindSolana := by
  constructor
  · have h₁ : Reaches ⟨false, false⟩ (start [sampleRequest 1, sampleRequest 2]) _ :=
      (Run.refl _).snoc (a := .arrive) trivial rfl
    have h₂ := h₁.snoc (a := .post) trivial rfl
    have h₃ := h₂.snoc (a := .read) trivial rfl
    have h₄ := h₃.snoc (a := .arrive) trivial rfl
    have h₅ := h₄.snoc (a := .post) trivial rfl
    exact h₅.snoc (a := .watcher ChainIDEthereum true) trivial rfl
  · exact ⟨sampleRequest 1, sampleRequest 2, stuck_of_not_receives rfl (by decide), by decide, by decide, rfl⟩

end Multiplexer

end Wormhole.Guardian
