import LocationRelay.Device
import LocationRelay.Proofs.Service
import LocationRelay.Proofs.TextBytes

/-! # What the relay loop writes

The loop hands on the parcels in the order in which they were accepted, each in a frame that carries it
unchanged. Once it has learned of a request to stop it hands on no more of them; at most one close frame
follows, for the reason that was asked for first, and after a request to terminate nothing follows at all.
-/
namespace LocationRelay

open Text (Bytes)

/-- The text that is read from some bytes has these bytes. -/
theorem Text.encode_of_decode {bytes : Bytes} {s : String} (h : decode? bytes = some s) :
    encode s = bytes := by
  rw [decode?, String.fromUTF8?] at h
  split at h
  · cases h
    rw [encode, toList_eq_data]
    exact List.toList_data_toByteArray
  · cases h

theorem Text.decode?_eq_some {bytes : Bytes} {s : String} : decode? bytes = some s ↔ encode s = bytes :=
  ⟨encode_of_decode, fun h => h ▸ decode_encode s⟩

/-- A payload goes out as text if it is the encoding of one, and as binary data otherwise. -/
theorem Frame.ofPayload_cases (content : Bytes) :
    (∃ text, Text.encode text = content ∧ ofPayload content = .text text) ∨
      (∀ text, Text.encode text ≠ content) ∧ ofPayload content = .binary content := by
  unfold ofPayload
  cases h : Text.decode? content with
  | some text => exact .inl ⟨text, Text.decode?_eq_some.mp h, rfl⟩
  | none =>
    refine .inr ⟨fun text ht => ?_, rfl⟩
    cases h.symm.trans (Text.decode?_eq_some.mpr ht)

/-- A device gets the bytes of a payload. -/
theorem DeviceEvent.payload_ofPayload (content : Bytes) :
    (ofFrame? (Frame.ofPayload content)).bind payload? = some content := by
  obtain ⟨text, ht, h⟩ | ⟨-, h⟩ := Frame.ofPayload_cases content <;> rw [h]
  · exact congrArg some ht
  · rfl

def Frame.isRelayed : Frame → Bool
  | .text _ | .binary _ | .ping _ => true
  | .pong _ | .close .. => false

def Frame.isClose : Frame → Bool
  | .close .. => true
  | _ => false

theorem Parcel.isRelayed_frame (p : Parcel) : p.frame.isRelayed = true := by
  cases p with
  | payload content =>
    obtain ⟨text, -, h⟩ | ⟨-, h⟩ := Frame.ofPayload_cases content <;>
      simp [frame, h, Frame.isRelayed]
  | probe => rfl

theorem Frame.isClose_of_isRelayed {f : Frame} (h : f.isRelayed = true) : f.isClose = false := by
  cases f <;> first | rfl | cases h

theorem CloseReason.isClose_frame (r : CloseReason) : r.frame.isClose = true := by
  cases r <;> rfl

theorem CloseReason.isRelayed_frame (r : CloseReason) : r.frame.isRelayed = false := by
  cases r <;> rfl

namespace Service

def written? : Action → Option Frame
  | .write f => some f
  | _ => none

def frames (as : List Action) : List Frame := as.filterMap written?

def stops (log : Record) : List Stop := Channel.stops (dids log)

def sent (log : Record) : List Parcel := Channel.sent (dids log)

def relayed (log : Record) : List Frame := (frames (acts log)).filter Frame.isRelayed

def closings (log : Record) : List Frame := (frames (acts log)).filter Frame.isClose

@[simp] theorem stops_append (log es : Record) : stops (log ++ es) = stops log ++ stops es := by
  simp [stops, Channel.stops]

@[simp] theorem sent_append (log es : Record) : sent (log ++ es) = sent log ++ sent es := by
  simp [sent, Channel.sent]

@[simp] theorem relayed_append (log es : Record) : relayed (log ++ es) = relayed log ++ relayed es := by
  simp [relayed, frames]

@[simp] theorem closings_append (log es : Record) :
    closings (log ++ es) = closings log ++ closings es := by
  simp [closings, frames]

def Written (log : Record) : HandlerStage → Prop
  | .handshake | .binding _ => stops log = [] ∧ sent log = [] ∧ relayed log = [] ∧ closings log = []
  | .serving _ | .writing _ =>
    stops log = [] ∧ relayed log = (sent log).map Parcel.frame ∧ closings log = []
  | .obeying _ (.send p) =>
    stops log = [] ∧ relayed log ++ [p.frame] = (sent log).map Parcel.frame ∧ closings log = []
  | .obeying _ (.stop s) =>
    stops log = [s] ∧ relayed log <+: (sent log).map Parcel.frame ∧ closings log = []
  | .closing _ r =>
    stops log = [.close r] ∧ relayed log <+: (sent log).map Parcel.frame ∧ closings log = [r.frame]
  | .unbinding _ | .over => relayed log <+: (sent log).map Parcel.frame ∧
    (stops log = [] ∨ closings log = [] ∨ ∃ r, .close r ∈ stops log ∧ closings log = [r.frame])

variable {connId capacity : Nat} {log es : Record} {s s' : Service} {h h' : Handler} {e : Happening}
  {r : Option Reading} {as : List Action} {i : Identity}

@[simp] theorem stops_entries : stops (entries e r as) = (r.bind Channel.stop?).toList := by
  rw [stops, dids_entries]
  cases r with
  | none => rfl
  | some x => exact Channel.stops_snoc [] x

@[simp] theorem sent_entries : sent (entries e r as) = (r.bind Channel.sent?).toList := by
  rw [sent, dids_entries]
  cases r with
  | none => rfl
  | some x => exact Channel.sent_snoc [] x

@[simp] theorem relayed_entries : relayed (entries e r as) = (frames as).filter Frame.isRelayed := by
  rw [relayed, acts_entries]

@[simp] theorem closings_entries : closings (entries e r as) = (frames as).filter Frame.isClose := by
  rw [closings, acts_entries]

@[simp] theorem frames_nil : frames [] = [] := rfl

@[simp] theorem frames_cons (a : Action) (as : List Action) :
    frames (a :: as) = (written? a).toList ++ frames as := by
  cases h : written? a <;> simp [frames, h]

theorem frames_parting (connId : Nat) (i : Identity) (event : SessionEvent) (graceful : Bool) :
    frames (parting connId i event graceful) = [] := by
  cases graceful <;> rfl

theorem Written.turn {stage stage' : HandlerStage} (hw : Written log stage)
    (turn : LoopTurn i stage e r as stage') : Written (log ++ entries e r as) stage' := by
  cases turn with
  | takes handles c =>
    obtain ⟨hstops, hrelayed, hclosings⟩ := hw
    cases c <;> simp [Written, Channel.stop?, Channel.sent?, hstops, hrelayed, hclosings]
  | writes p =>
    obtain ⟨hstops, hrelayed, hclosings⟩ := hw
    simp [Written, Channel.stop?, Channel.sent?, written?, hstops, hrelayed, hclosings,
      p.isRelayed_frame, Frame.isClose_of_isRelayed p.isRelayed_frame]
  | preempted p s =>
    obtain ⟨hstops, hrelayed, hclosings⟩ := hw
    simp [Written, Channel.stop?, Channel.sent?, hstops, ← hrelayed, hclosings]
  | interrupted result s =>
    obtain ⟨hstops, hrelayed, hclosings⟩ := hw
    simp [Written, Channel.stop?, Channel.sent?, hstops, hrelayed, hclosings]
  | closes reason =>
    obtain ⟨hstops, hrelayed, hclosings⟩ := hw
    simp [Written, Channel.stop?, Channel.sent?, written?, hstops, hrelayed, hclosings,
      reason.isClose_frame, reason.isRelayed_frame]
  | waits | answered | ignores | goesOn | written | flushes =>
    simpa [Written, Channel.stop?, Channel.sent?, written?] using hw

theorem Written.exit {stage : HandlerStage} {event : SessionEvent} {orderly : Bool}
    (hw : Written log stage) (exit : LoopExit i stage e r event orderly) (connId : Nat) (graceful : Bool) :
    Written (log ++ entries e r (parting connId i event graceful)) (.unbinding i) := by
  have hframes := frames_parting connId i event graceful
  cases exit with
  | ends | hangsUp | fails =>
    obtain ⟨hstops, hrelayed, -⟩ := hw
    simp [Written, Channel.stop?, Channel.sent?, hframes, hstops, hrelayed]
  | terminates | overtaken =>
    obtain ⟨-, hrelayed, hclosings⟩ := hw
    simp [Written, Channel.stop?, Channel.sent?, hframes, hrelayed, hclosings]
  | flushed | breaksOff | stalls =>
    obtain ⟨hstops, hrelayed, hclosings⟩ := hw
    simp [Written, Channel.stop?, Channel.sent?, hframes, hrelayed, hclosings, hstops]

theorem Written.move (hw : Written log h.stage) (hm : Move h e r as h') :
    Written (log ++ entries e r as) h'.stage := by
  cases hm with
  | expires hs | fails hs | rejects hs | admits hs =>
    rw [hs] at hw
    obtain ⟨hstops, hsent, hrelayed, hclosings⟩ := hw
    simp [Written, written?, Handler.reject, Handler.unauthorized, Frame.isRelayed, hstops, hsent,
      hrelayed, hclosings]
  | refuses hs | grants hs =>
    rw [hs] at hw
    obtain ⟨hstops, hsent, hrelayed, hclosings⟩ := hw
    simp [Written, written?, Handler.reject, CloseReason.isRelayed_frame, hstops, hsent, hrelayed,
      hclosings]
  | stays hs turn => exact (hs ▸ hw).turn turn
  | leaves hs exit => exact (hs ▸ hw).exit exit h.connId _
  | returned hs =>
    rw [hs] at hw
    simpa [Written, Channel.stop?, Channel.sent?, written?] using hw

/-! ## What comes after a request to stop -/

def Entry.stop? (x : Entry) : Option Stop := x.did?.bind Channel.stop?

theorem mem_stops {log : Record} {x : Entry} {s : Stop} (hx : x ∈ log) (hs : x.stop? = some s) :
    s ∈ stops log := by
  obtain ⟨y, hy, hstop⟩ := Option.bind_eq_some_iff.mp hs
  exact List.mem_filterMap.mpr ⟨y, List.mem_filterMap.mpr ⟨x, hx, hy⟩, hstop⟩

/-- What must not follow an entry: no data after a request to stop, and after a request to terminate neither
a close frame nor an orderly end of the socket. -/
def Yields (x y : Entry) : Prop :=
  (∀ s, x.stop? = some s → ∀ f, y = .acted (.write f) → f.isRelayed = false) ∧
  (x.stop? = some .terminate → (∀ f, y = .acted (.write f) → f.isClose = false) ∧ y ≠ .acted .closeSocket)

/-- Data is written only as long as no request to stop is known. -/
theorem Written.of_data (hw : Written log h.stage) (hm : Move h e r as h') {f : Frame}
    (hf : .write f ∈ as) (hrelayed : f.isRelayed = true) : stops (log ++ entries e r as) = [] := by
  cases hm with
  | rejects hs x =>
    obtain rfl : f = Handler.unauthorized := by simpa [Handler.reject] using hf
    cases hrelayed
  | refuses hs x b =>
    obtain rfl : f = CloseReason.frame (if b then .shutdown else .setupFailed) := by
      simpa [Handler.reject] using hf
    cases (CloseReason.isRelayed_frame _).symm.trans hrelayed
  | stays hs turn =>
    cases turn with
    | writes p =>
      rw [hs] at hw
      simp [hw.1, Channel.stop?]
    | closes reason =>
      obtain rfl : f = reason.frame := by simpa using hf
      cases reason.isRelayed_frame.symm.trans hrelayed
    | _ => simp at hf
  | leaves hs exit => simp [parting] at hf
  | _ => simp at hf

/-- Close frames are written and the socket is closed only as long as no request to terminate is known. -/
theorem Written.of_closing (hw : Written log h.stage) (hm : Move h e r as h')
    (has : (∃ f, .write f ∈ as ∧ f.isClose = true) ∨ .closeSocket ∈ as) :
    .terminate ∉ stops (log ++ entries e r as) := by
  cases hm with
  | expires hs | fails hs | admits hs | grants hs | returned hs => simp at has
  | rejects hs | refuses hs =>
    rw [hs] at hw
    simp [hw.1]
  | stays hs turn =>
    cases turn with
    | writes p =>
      rw [hs] at hw
      simp [hw.1, Channel.stop?]
    | closes reason =>
      rw [hs] at hw
      simp [hw.1, Channel.stop?]
    | _ => simp at has
  | @leaves _ _ _ _ orderly _ hs exit =>
    have horderly : orderly = true := by
      cases orderly
      · simp [parting] at has
      · rfl
    subst horderly
    rw [hs] at hw
    cases exit with
    | ends | hangsUp | fails | flushed => simp [hw.1, Channel.stop?]

theorem Written.yields (hw : Written log h.stage) (hm : Move h e r as h') {x y : Entry}
    (hx : x ∈ log ++ entries e r as) (hy : y ∈ entries e r as) : Yields x y := by
  refine ⟨?_, fun hs => ⟨?_, ?_⟩⟩
  · rintro s hs f rfl
    by_contra hf
    have hnone := hw.of_data hm (acted_mem_entries.mp hy) (by simpa using hf)
    exact List.not_mem_nil (hnone ▸ mem_stops hx hs)
  · rintro f rfl
    by_contra hf
    exact hw.of_closing hm (.inl ⟨f, acted_mem_entries.mp hy, by simpa using hf⟩) (mem_stops hx hs)
  · rintro rfl
    exact hw.of_closing hm (.inr (acted_mem_entries.mp hy)) (mem_stops hx hs)

/-- Whoever has a handle takes nothing out. -/
theorem silent_of_outside {c c' : Channel} {o : Channel.Operation} {a : Channel.Answer}
    (ho : o.isOutside = true) (hop : c.op? o = some (a, c')) :
    Channel.stops [(o, a)] = [] ∧ Channel.sent [(o, a)] = [] := by
  cases o with
  | offer p =>
    obtain ⟨-, hop⟩ := Option.ite_none_right_eq_some.mp hop
    split at hop <;> cases hop <;> exact ⟨rfl, rfl⟩
  | request | clone | drop =>
    obtain ⟨-, hop⟩ := Option.ite_none_right_eq_some.mp hop
    cases hop
    exact ⟨rfl, rfl⟩
  | take | takeStop | abandon => cases ho

theorem Written.outside {stage : HandlerStage} {c c' : Channel} {o : Channel.Operation}
    {a : Channel.Answer} (hw : Written log stage) (ho : o.isOutside = true)
    (hop : c.op? o = some (a, c')) : Written (log ++ [.did (o, a)]) stage := by
  obtain ⟨hnone, hnothing⟩ := silent_of_outside ho hop
  have hstops : stops (log ++ [.did (o, a)]) = stops log :=
    (stops_append _ _).trans ((congrArg (stops log ++ ·) hnone).trans (List.append_nil _))
  have hsent : sent (log ++ [.did (o, a)]) = sent log :=
    (sent_append _ _).trans ((congrArg (sent log ++ ·) hnothing).trans (List.append_nil _))
  have hacts : acts (log ++ [.did (o, a)]) = acts log := (acts_append _ _).trans (List.append_nil _)
  unfold Written at hw ⊢
  simp only [hstops, hsent, relayed, closings, hacts]
  exact hw

structure Output (log : Record) (s : Service) : Prop where
  written : Written log s.handler.stage
  yields : log.Pairwise Yields

theorem output_new (connId capacity : Nat) : Output [] (new connId capacity) :=
  ⟨⟨rfl, rfl, rfl, rfl⟩, .nil⟩

theorem Output.taken (hout : Output log s) (ht : s.Taken es s') : Output (log ++ es) s' := by
  cases ht with
  | @outside o a c ho hop =>
    refine ⟨hout.written.outside ho hop, List.pairwise_append.mpr
      ⟨hout.yields, List.pairwise_singleton _ _, fun x _ y hy => ?_⟩⟩
    cases List.mem_singleton.mp hy
    refine ⟨?_, fun _ => ⟨?_, ?_⟩⟩
    · rintro _ _ _ ⟨⟩
    · rintro _ ⟨⟩
    · rintro ⟨⟩
  | @moves e r as h c hm hc =>
    have hyields {x y : Entry} := hout.written.yields hm (x := x) (y := y)
    refine ⟨hout.written.move hm, List.pairwise_append.mpr ⟨hout.yields, ?_, fun x hx y hy => ?_⟩⟩
    · exact List.pairwise_of_forall_mem_list fun x hx y hy => hyields (List.mem_append_right _ hx) hy
    · exact hyields (List.mem_append_left _ hx) hy

/-- What has been relayed was taken out before, in the same order. -/
theorem Written.relayed_prefix {stage : HandlerStage} (hw : Written log stage) :
    relayed log <+: (sent log).map Parcel.frame := by
  cases stage with
  | handshake | binding =>
    rw [hw.2.2.1]
    exact List.nil_prefix
  | serving | writing => exact hw.2.1 ▸ List.prefix_rfl
  | obeying i c =>
    cases c with
    | send p => exact ⟨_, hw.2.1⟩
    | stop s => exact hw.2.1
  | closing => exact hw.2.1
  | unbinding | «over» => exact hw.1

/-- At most one close frame goes out once a request to stop is known. -/
theorem Written.closings_cases {stage : HandlerStage} (hw : Written log stage) (hs : stops log ≠ []) :
    closings log = [] ∨ ∃ r, .close r ∈ stops log ∧ closings log = [r.frame] := by
  cases stage with
  | handshake | binding | serving | writing => exact absurd hw.1 hs
  | obeying i c =>
    cases c with
    | send p => exact absurd hw.1 hs
    | stop s => exact .inl hw.2.2
  | closing i r => exact .inr ⟨r, hw.1 ▸ List.mem_singleton_self _, hw.2.2⟩
  | unbinding | «over» => exact hw.2.resolve_left hs

/-- Whatever is taken from the outbox and whenever a request to stop arrives. -/
theorem loop_output {ts : List Turn} (hrun : (new connId capacity).run ts = some (log, s)) :
    (relayed log <+: (Channel.accepted (dids log)).map Parcel.frame ∧
      ∀ content,
        ((∃ text, Text.encode text = content ∧ (Parcel.payload content).frame = .text text) ∨
          (∀ text, Text.encode text ≠ content) ∧ (Parcel.payload content).frame = .binary content) ∧
        (DeviceEvent.ofFrame? (Parcel.payload content).frame).bind DeviceEvent.payload? = some content) ∧
    (log.Pairwise (fun x y => ∀ s, x.stop? = some s →
        ∀ f, y = .acted (.write f) → f.isRelayed = false) ∧
      (stops log ≠ [] → closings log = [] ∨ ∃ r,
        (Channel.asked (dids log)).head? = some (.close r) ∧ closings log = [r.frame])) ∧
    log.Pairwise fun x y => x.stop? = some .terminate →
      (∀ f, y = .acted (.write f) → f.isClose = false) ∧ y ≠ .acted .closeSocket := by
  obtain ⟨⟨os, -, hkept⟩, -, hout⟩ := run_induction (P := Output) (output_new connId capacity)
    (fun _ _ _ _ _ _ hout ht => hout.taken ht) hrun
  obtain ⟨lost, hparcels, -⟩ := hkept.parcels
  refine ⟨⟨?_, fun content => ⟨Frame.ofPayload_cases content, DeviceEvent.payload_ofPayload content⟩⟩,
    ⟨hout.yields.imp And.left, fun hs => ?_⟩, hout.yields.imp And.right⟩
  · refine hout.written.relayed_prefix.trans ?_
    rw [hparcels, List.append_assoc, List.map_append]
    exact List.prefix_append _ _
  · refine (hout.written.closings_cases hs).imp_right fun ⟨r, hr, hclosings⟩ => ⟨r, ?_, hclosings⟩
    exact Channel.head?_of_close_mem (hkept.stops.subset hr)

/-- Of three parcels one is written; the connection is superseded while the second is on its way out, and
terminated while it is told so. -/
def Sample.terminated : List Turn := Sample.bound ++
  [.outside (.offer (.payload [7])), .outside (.offer .probe), .outside (.offer (.payload [255])),
    .happens (.outboxTurn true), .happens .resumed, .happens (.writing (some true)),
    .happens (.outboxTurn true), .happens .resumed, .outside (.request (.close .superseded)),
    .happens (.writing none), .happens .resumed, .outside (.request .terminate),
    .happens (.writing none), .happens .unbound]

theorem loop_output_terminated : ∃ log s, (new 3 4).run Sample.terminated = some (log, s) ∧
    stops log = [.close .superseded, .terminate] ∧
    relayed log <+: [Frame.ofPayload [7], .ping [], Frame.ofPayload [255]] ∧
    (closings log = [] ∨ closings log = [.close .normal "superseded"]) := by
  obtain ⟨⟨log, s⟩, hrun⟩ := Option.isSome_iff_exists.mp
    (show ((new 3 4).run Sample.terminated).isSome = true by decide +kernel)
  have hstops : stops log = [.close .superseded, .terminate] :=
    run_shows hrun (fun w => stops w.1) (by decide +kernel)
  have hasked : Channel.asked (dids log) = [.close .superseded, .terminate] :=
    run_shows hrun (fun w => Channel.asked (dids w.1)) (by decide +kernel)
  have haccepted : Channel.accepted (dids log) = [.payload [7], .probe, .payload [255]] :=
    run_shows hrun (fun w => Channel.accepted (dids w.1)) (by decide +kernel)
  obtain ⟨⟨hrelayed, -⟩, ⟨-, hclosings⟩, -⟩ := loop_output hrun
  rw [haccepted] at hrelayed
  rw [hstops, hasked] at hclosings
  refine ⟨log, s, hrun, hstops, hrelayed, (hclosings (List.cons_ne_nil _ _)).imp_right ?_⟩
  rintro ⟨r, hr, hframes⟩
  cases hr
  exact hframes

end Service
end LocationRelay
