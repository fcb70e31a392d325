import Brokerage.Proofs.Addressing
import Brokerage.Proofs.Leniency
import Brokerage.Proofs.Reading

/-!
# Calls of a platform

Every route of a broker is mounted twice, with and without a segment in front that names a platform.
The platform goes into the envelope of the call, and nothing on the way to the services looks at it.

* `sentBy`: the same request or call, sent by a platform.
* `Broker.told`: the broker whose services are told the platform, whatever they are told.
* `Broker.perform?_sentBy`: **a call of a platform is carried out** as such a broker carries out the call.
* `Http.call_platform`: **a segment in front of the path** makes the call one of the platform, and
  nothing else.
-/

namespace Brokerage

variable {α ρ : Type}

/-! ## Told a platform -/

/-- What carries an envelope. -/
class Enveloped (α : Type) where
  mapEnvelope : (Envelope → Envelope) → α → α

/-- The envelope that names the platform. -/
def Envelope.onPlatform (id : String) (e : Envelope) : Envelope :=
  { e with platformInstanceId := some id }

/-- The same, sent by the platform. -/
def sentBy [Enveloped α] (id : String) : α → α := Enveloped.mapEnvelope (Envelope.onPlatform id)

instance : Enveloped Instance.CreateRequest := ⟨fun f q => { q with envelope := f q.envelope }⟩

instance : Enveloped Instance.UpdateRequest := ⟨fun f q => { q with envelope := f q.envelope }⟩

instance : Enveloped Instance.DeleteRequest := ⟨fun f q => { q with envelope := f q.envelope }⟩

instance : Enveloped Instance.GetRequest := ⟨fun f q => { q with envelope := f q.envelope }⟩

instance : Enveloped Instance.PollRequest := ⟨fun f q => { q with envelope := f q.envelope }⟩

instance : Enveloped Binding.CreateRequest := ⟨fun f q => { q with envelope := f q.envelope }⟩

instance : Enveloped Binding.DeleteRequest := ⟨fun f q => { q with envelope := f q.envelope }⟩

instance : Enveloped Binding.GetRequest := ⟨fun f q => { q with envelope := f q.envelope }⟩

instance : Enveloped Binding.PollRequest := ⟨fun f q => { q with envelope := f q.envelope }⟩

instance : Enveloped (Inbound α) := ⟨fun f i => { i with envelope := f i.envelope }⟩

instance : Enveloped (BindingInbound α) := ⟨fun f i => { i with envelope := f i.envelope }⟩

instance : Enveloped AnyRequest where
  mapEnvelope f
    | .createInstance q => .createInstance (Enveloped.mapEnvelope f q)
    | .updateInstance q => .updateInstance (Enveloped.mapEnvelope f q)
    | .deleteInstance q => .deleteInstance (Enveloped.mapEnvelope f q)
    | .getInstance q => .getInstance (Enveloped.mapEnvelope f q)
    | .pollInstance q => .pollInstance (Enveloped.mapEnvelope f q)
    | .createBinding q => .createBinding (Enveloped.mapEnvelope f q)
    | .deleteBinding q => .deleteBinding (Enveloped.mapEnvelope f q)
    | .getBinding q => .getBinding (Enveloped.mapEnvelope f q)
    | .pollBinding q => .pollBinding (Enveloped.mapEnvelope f q)

instance : Enveloped Call where
  mapEnvelope f
    | .createInstance i => .createInstance (Enveloped.mapEnvelope f i)
    | .updateInstance i => .updateInstance (Enveloped.mapEnvelope f i)
    | .deleteInstance i => .deleteInstance (Enveloped.mapEnvelope f i)
    | .getInstance i => .getInstance (Enveloped.mapEnvelope f i)
    | .pollInstance i => .pollInstance (Enveloped.mapEnvelope f i)
    | .createBinding i => .createBinding (Enveloped.mapEnvelope f i)
    | .deleteBinding i => .deleteBinding (Enveloped.mapEnvelope f i)
    | .getBinding i => .getBinding (Enveloped.mapEnvelope f i)
    | .pollBinding i => .pollBinding (Enveloped.mapEnvelope f i)

/-- The service that is told the platform. -/
def InstanceService.told (id : String) (s : InstanceService) : InstanceService where
  create q := s.create (sentBy id q)
  update q := s.update (sentBy id q)
  delete q := s.delete (sentBy id q)
  get := s.get.map fun get q => get (sentBy id q)
  poll := s.poll.map fun poll q => poll (sentBy id q)

/-- The service that is told the platform. -/
def BindingService.told (id : String) (s : BindingService) : BindingService where
  create q := s.create (sentBy id q)
  delete q := s.delete (sentBy id q)
  get := s.get.map fun get q => get (sentBy id q)
  poll := s.poll.map fun poll q => poll (sentBy id q)

/-- The broker whose services are told the platform, whatever they are told. -/
def Broker.told (id : String) (b : Broker) : Broker :=
  { b with
    instances := b.instances.told id
    bindings := b.bindings.map (·.told id) }

/-- The report of a call that came from the platform. -/
def Report.ofPlatform (id : String) (r : Report) : Report := r.mapRequests (sentBy id)

/-- The services do not look at the platform. -/
def Broker.IgnoresPlatform (b : Broker) : Prop := ∀ id, b.told id = b

/-- Services with fixed outcomes do not. -/
theorem Broker.ignoresPlatform_scripted (catalog : Catalog) (flows : FlowRegistries)
    (s : InstanceScript) (t : Option BindingScript) :
    Broker.IgnoresPlatform ⟨catalog, .scripted s, t.map .scripted, flows⟩ := by
  intro id
  cases t <;> rfl

/-! ## Calls of a platform -/

section

variable (id : String)

theorem Call.operation_sentBy (c : Call) : (sentBy id c).operation = c.operation := by
  cases c <;> rfl

/-- What a call is resolved to comes from the platform that the call comes from. -/
theorem Call.resolve_sentBy (catalog : Catalog) (c : Call) :
    (sentBy id c).resolve catalog = (c.resolve catalog).map (sentBy id) := by
  cases c with
  | createInstance i =>
    show (catalog.require i.body.serviceId i.body.planId).map _ =
      ((catalog.require i.body.serviceId i.body.planId).map _).map _
    cases catalog.require i.body.serviceId i.body.planId <;> rfl
  | updateInstance i =>
    show (catalog.requireOptionalPlan i.body.serviceId i.body.planId).map _ =
      ((catalog.requireOptionalPlan i.body.serviceId i.body.planId).map _).map _
    cases catalog.requireOptionalPlan i.body.serviceId i.body.planId <;> rfl
  | createBinding i =>
    show (catalog.require i.body.serviceId i.body.planId).map _ =
      ((catalog.require i.body.serviceId i.body.planId).map _).map _
    cases catalog.require i.body.serviceId i.body.planId <;> rfl
  | _ => rfl

section

variable [Enveloped α] [Response ρ] (wrap : α → AnyRequest)
  (hwrap : ∀ a, wrap (sentBy id a) = sentBy id (wrap a)) (op : Operation) (view : ρ → AnyResponse)

include hwrap

theorem Report.ofRun_sentBy (run : Run α ρ) :
    ofRun op wrap view (run.mapRequest (sentBy id)) = (ofRun op wrap view run).ofPlatform id := by
  have hcomp : sentBy id ∘ wrap = wrap ∘ sentBy id := funext fun a => (hwrap a).symm
  unfold Report.ofPlatform
  rw [mapRequests_ofRun, hcomp]
  unfold ofRun ofAnswer Run.mapRequest
  simp only [List.map_map]
  congr 2
  funext e
  cases e <;> rfl

/-- A service that is asked is told the platform. -/
theorem Report.run_consult_sentBy (flows : FlowRegistry) (service : α → Outcome ρ) (a : α) :
    ofRun op wrap view (Pipeline.run flows (consult service (sentBy id a))) =
      (ofRun op wrap view
        (Pipeline.run flows (consult (fun a => service (sentBy id a)) a))).ofPlatform id := by
  rw [← ofRun_sentBy id wrap hwrap, ← Pipeline.run_mapRequest]
  rfl

/-- So is a service that may have left out the operation. -/
theorem Report.run_offered_sentBy (flows : FlowRegistry) (name : String)
    (service : Option (α → Outcome ρ)) (a : α) :
    ofRun op wrap view (Pipeline.run flows (consultIfOffered name service (sentBy id a))) =
      (ofRun op wrap view (Pipeline.run flows
        (consultIfOffered name (service.map fun s a => s (sentBy id a)) a))).ofPlatform id := by
  rw [← ofRun_sentBy id wrap hwrap, ← Pipeline.run_mapRequest]
  cases service <;> rfl

/-- And without hooks. -/
theorem Report.plain_offered_sentBy (name : String) (service : Option (α → Outcome ρ)) (a : α) :
    ofRun op wrap view (Pipeline.plain (consultIfOffered name service (sentBy id a))) =
      (ofRun op wrap view (Pipeline.plain
        (consultIfOffered name (service.map fun s a => s (sentBy id a)) a))).ofPlatform id := by
  rw [← ofRun_sentBy id wrap hwrap]
  cases service <;> rfl

end

namespace Broker

variable (b : Broker)

/-- A broker whose services are told the platform serves the same operations. -/
theorem serves_told (op : Operation) : (b.told id).Serves op ↔ b.Serves op := by
  unfold Serves told
  rw [Option.isSome_map]

/-- **A request of a platform is carried out** as by a broker whose services are told the platform. -/
theorem carryOut?_sentBy (q : AnyRequest) :
    b.carryOut? (sentBy id q) =
      ((b.told id).carryOut? q).map (Report.ofPlatform id) := by
  have hbindings : ∀ {f g : BindingService → Report},
      (∀ s, f s = (g (s.told id)).ofPlatform id) →
        b.bindings.map f = ((b.told id).bindings.map g).map (Report.ofPlatform id) := by
    intro f g hfg
    show b.bindings.map f = ((b.bindings.map _).map g).map _
    cases b.bindings with
    | none => rfl
    | some s => exact congrArg some (hfg s)
  cases q with
  | createInstance q =>
    exact congrArg some
      (Report.run_consult_sentBy id AnyRequest.createInstance (fun _ => rfl) _ _ _ _ q)
  | updateInstance q =>
    exact congrArg some
      (Report.run_consult_sentBy id AnyRequest.updateInstance (fun _ => rfl) _ _ _ _ q)
  | deleteInstance q =>
    exact congrArg some
      (Report.run_consult_sentBy id AnyRequest.deleteInstance (fun _ => rfl) _ _ _ _ q)
  | getInstance q =>
    exact congrArg some
      (Report.plain_offered_sentBy id AnyRequest.getInstance (fun _ => rfl) _ _ _ _ q)
  | pollInstance q =>
    exact congrArg some
      (Report.run_offered_sentBy id AnyRequest.pollInstance (fun _ => rfl) _ _ _ _ _ q)
  | createBinding q =>
    exact hbindings fun s =>
      Report.run_consult_sentBy id AnyRequest.createBinding (fun _ => rfl) _ _ _ _ q
  | deleteBinding q =>
    exact hbindings fun s =>
      Report.run_consult_sentBy id AnyRequest.deleteBinding (fun _ => rfl) _ _ _ _ q
  | getBinding q =>
    exact hbindings fun s =>
      Report.plain_offered_sentBy id AnyRequest.getBinding (fun _ => rfl) _ _ _ _ q
  | pollBinding q =>
    exact hbindings fun s =>
      Report.run_offered_sentBy id AnyRequest.pollBinding (fun _ => rfl) _ _ _ _ _ q

/-- **A call of a platform is carried out** as by a broker whose services are told the platform. -/
theorem perform?_sentBy (c : Call) :
    b.perform? (sentBy id c) = ((b.told id).perform? c).map (Report.ofPlatform id) := by
  have hresolve := c.resolve_sentBy id b.catalog
  cases hq : c.resolve b.catalog with
  | ok q =>
    rw [hq] at hresolve
    have hq' : c.resolve (b.told id).catalog = .ok q := hq
    rw [perform?_of_resolve_ok hresolve, perform?_of_resolve_ok hq']
    exact b.carryOut?_sentBy id q
  | error f =>
    rw [hq] at hresolve
    have hq' : c.resolve (b.told id).catalog = .error f := hq
    have hop := c.operation_sentBy id
    by_cases hb : b.Serves c.operation
    · rw [perform?_of_resolve_error (hop ▸ hb) hresolve, hop,
        perform?_of_resolve_error ((b.serves_told id _).2 hb) hq']
      rfl
    · rw [perform?_of_not_serves (hop ▸ hb), perform?_of_not_serves (mt (b.serves_told id _).1 hb)]
      rfl

end Broker

end

/-! ## The call of a path under a platform -/

namespace Http

section

variable {p : List Char} {id : String} (hid : percentText? p = some id) (raw : RawParams)

include hid

theorem decodeParams_platform :
    decodeParams ((.platformId, p) :: raw) = (decodeParams raw).map ((.platformId, id) :: ·) := by
  rw [decodeParams, hid]

/-- **A segment in front of the path** makes the call one of the platform, and nothing else. -/
theorem call_platform (op : Operation) (r : Request) :
    call op ((.platformId, p) :: raw) r = (call op raw r).map (sentBy id) := by
  have henvelope : ∀ ps : Params, envelope ((.platformId, id) :: ps) r =
      (envelope ps r).map (Envelope.onPlatform id) := by
    intro ps
    unfold envelope
    cases originatingIdentity r <;> rfl
  have hinbound : ∀ {β : Type} (ps : Params) (accepted : Bool) (env : Envelope) (body : β),
      inbound ((.platformId, id) :: ps) accepted (env.onPlatform id) body =
        (inbound ps accepted env body).map (sentBy id) := by
    intro β ps accepted env body
    show (ps.require .instanceId >>= _) = (ps.require .instanceId >>= _).map _
    cases ps.require .instanceId <;> rfl
  have hbinding : ∀ {β : Type} (ps : Params) (accepted : Bool) (env : Envelope) (body : β),
      bindingInbound ((.platformId, id) :: ps) accepted (env.onPlatform id) body =
        (bindingInbound ps accepted env body).map (sentBy id) := by
    intro β ps accepted env body
    show (ps.require .instanceId >>= fun _ => ps.require .bindingId >>= _) =
      (ps.require .instanceId >>= fun _ => ps.require .bindingId >>= _).map _
    cases ps.require .instanceId with
    | error e => rfl
    | ok i => cases ps.require .bindingId <;> rfl
  have hmade : ∀ {γ : Type} [Enveloped γ] (wrap : γ → Call) (_ : ∀ g, wrap (sentBy id g) =
      sentBy id (wrap g)) {x x' : Except Rejection γ} (_ : x' = x.map (sentBy id)),
      wrap <$> x' = (wrap <$> x).map (sentBy id) := by
    rintro γ _ wrap hwrap x _ rfl
    cases x with
    | error e => rfl
    | ok g => exact congrArg Except.ok (hwrap g)
  have hread : ∀ {β : Type} (read : Except Rejection β) {f f' : β → Except Rejection Call}
      (_ : ∀ x, f' x = (f x).map (sentBy id)), read >>= f' = (read >>= f).map (sentBy id) := by
    intro β read f f' h
    cases read with
    | error e => rfl
    | ok x => exact h x
  unfold call
  rw [decodeParams_platform hid]
  cases decodeParams raw with
  | error e => rfl
  | ok ps =>
    show (asyncFlag op r >>= _) = (asyncFlag op r >>= _).map _
    cases asyncFlag op r with
    | error e => rfl
    | ok accepted =>
      show (envelope ((.platformId, id) :: ps) r >>= _) = (envelope ps r >>= _).map _
      rw [henvelope]
      cases envelope ps r with
      | error e => rfl
      | ok env =>
        cases op with
        | createInstance =>
          exact hread (bodyAs _ r) fun body => hmade .createInstance (fun _ => rfl)
            (hinbound ps accepted env body)
        | updateInstance =>
          exact hread (bodyAs _ r) fun body => hmade .updateInstance (fun _ => rfl)
            (hinbound ps accepted env body)
        | deleteInstance =>
          exact hread (queryAs _ r) fun query => hmade .deleteInstance (fun _ => rfl)
            (hinbound ps accepted env query)
        | getInstance =>
          exact hmade .getInstance (fun _ => rfl) (hinbound ps accepted env ())
        | pollInstance =>
          exact hread (queryAs _ r) fun query => hmade .pollInstance (fun _ => rfl)
            (hinbound ps accepted env query)
        | createBinding =>
          exact hread (bodyAs _ r) fun body => hmade .createBinding (fun _ => rfl)
            (hbinding ps accepted env body)
        | deleteBinding =>
          exact hread (queryAs _ r) fun query => hmade .deleteBinding (fun _ => rfl)
            (hbinding ps accepted env query)
        | getBinding =>
          exact hmade .getBinding (fun _ => rfl) (hbinding ps accepted env ())
        | pollBinding =>
          exact hread (queryAs _ r) fun query => hmade .pollBinding (fun _ => rfl)
            (hbinding ps accepted env query)

end

end Http

end Brokerage
