import ClusterHarness.Plan.Reading
import ClusterHarness.Proofs.Document.Fields
import ClusterHarness.Suite.Manifest

/-!
# Plans and manifests as documents

A plan or a manifest is read back from its document, and whatever a document says of one is read
again from the document that is written of it: the defaults of absent fields are filled in once and
for all. The numbers of a plan have a width each. Reading accepts no others, so plans whose numbers
fit their widths are read back, and no others are.
-/

namespace ClusterHarness

open Document

/-! ## Services -/

namespace Readiness

structure Fits (c : Readiness) : Prop where
  adapters : FitsBits 64 c.adapters

/-- The documents that a contract is read from. -/
theorem ofDocument?_eq_some_iff {r : Reading} {d : Document} {c : Readiness} :
    ofDocument? r d = some c ↔ ∃ adapters namedReady,
      d.slots r ["adapters", "named_ready"] = some [adapters, namedReady] ∧
      required (asNat 64) adapters = some c.adapters ∧
      optional asText namedReady = some c.namedReady := by
  constructor
  · intro h
    obtain ⟨slots, hslots, h⟩ := Option.bind_eq_some_iff.mp h
    split at h
    · next adapters namedReady =>
      obtain ⟨count, hadapters, h⟩ := Option.bind_eq_some_iff.mp h
      obtain ⟨token, hnamed, h⟩ := Option.bind_eq_some_iff.mp h
      cases h
      exact ⟨adapters, namedReady, hslots, hadapters, hnamed⟩
    · cases h
  · rintro ⟨adapters, namedReady, hslots, hadapters, hnamed⟩
    simp [ofDocument?, hslots, hadapters, hnamed]

/-- Readiness contracts are read back if their numbers fit. -/
theorem inverts (r : Reading) : Inverts (ofDocument? r) toDocument Fits where
  read_write c h := ofDocument?_eq_some_iff.mpr ⟨_, _, rfl,
    (inverts_nat 64).read_write _ h.adapters,
    (inverts_optional inverts_text nofun).read_write _ fun _ _ ↦ trivial⟩
  fits_of_read d c h := by
    obtain ⟨_, _, -, hadapters, -⟩ := ofDocument?_eq_some_iff.mp h
    exact ⟨(inverts_required (inverts_nat 64)).fits_of_read _ _ hadapters⟩

end Readiness

namespace ServicePlan

structure Fits (s : ServicePlan) : Prop where
  readiness : ∀ c ∈ s.readiness, c.Fits

private theorem inverts_readiness (r : Reading) :
    Inverts (optional (Readiness.ofDocument? r))
      (fun c ↦ some (ofOption Readiness.toDocument c)) fun c ↦ ∀ x ∈ c, x.Fits :=
  inverts_optional (Readiness.inverts r) nofun

/-- The documents that a service is read from. -/
theorem ofDocument?_eq_some_iff {r : Reading} {d : Document} {s : ServicePlan} :
    ofDocument? r d = some s ↔ ∃ binary options readiness,
      d.slots r fieldNames = some [binary, options, readiness] ∧
      required asText binary = some s.binary ∧
      withDefault [] asTexts options = some s.options ∧
      optional (Readiness.ofDocument? r) readiness = some s.readiness := by
  constructor
  · intro h
    obtain ⟨slots, hslots, h⟩ := Option.bind_eq_some_iff.mp h
    unfold ofSlots? at h
    split at h
    · next binary options readiness =>
      obtain ⟨program, hbinary, h⟩ := Option.bind_eq_some_iff.mp h
      obtain ⟨words, hoptions, h⟩ := Option.bind_eq_some_iff.mp h
      obtain ⟨contract, hreadiness, h⟩ := Option.bind_eq_some_iff.mp h
      cases h
      exact ⟨binary, options, readiness, hslots, hbinary, hoptions, hreadiness⟩
    · cases h
  · rintro ⟨binary, options, readiness, hslots, hbinary, hoptions, hreadiness⟩
    simp [ofDocument?, ofSlots?, hslots, hbinary, hoptions, hreadiness]

/-- Services are read back if their numbers fit. -/
theorem inverts (r : Reading) : Inverts (ofDocument? r) toDocument Fits where
  read_write s h := ofDocument?_eq_some_iff.mpr ⟨_, _, _, rfl, rfl, asTexts_texts _,
    (inverts_readiness r).read_write _ h.readiness⟩
  fits_of_read d s h := by
    obtain ⟨_, _, _, -, -, -, hreadiness⟩ := ofDocument?_eq_some_iff.mp h
    exact ⟨(inverts_readiness r).fits_of_read _ _ hreadiness⟩

end ServicePlan

namespace NodePlan

structure Fits (n : NodePlan) : Prop where
  service : n.service.Fits

/-- The fields of the service stand beside the name. -/
theorem inverts : Inverts ofDocument? toDocument Fits where
  read_write n h := by
    have hservice : ServicePlan.ofDocument? .strict n.toDocument = some n.service :=
      ServicePlan.ofDocument?_eq_some_iff.mpr ⟨_, _, _, rfl, rfl, asTexts_texts _,
        (ServicePlan.inverts_readiness .strict).read_write _ h.service.readiness⟩
    show (ServicePlan.ofDocument? .strict n.toDocument).bind
      (fun service ↦ some { name := n.name, service }) = some n
    rw [hservice]
    rfl
  fits_of_read d n h := by
    unfold ofDocument? at h
    split at h
    · obtain ⟨name, -, h⟩ := Option.bind_eq_some_iff.mp h
      obtain ⟨service, hservice, h⟩ := Option.bind_eq_some_iff.mp h
      cases h
      exact ⟨(ServicePlan.inverts .strict).fits_of_read _ _ hservice⟩
    · cases h

end NodePlan

/-! ## Admin operations -/

namespace Admin

/-- Admin commands are read back as they were written. -/
theorem Operation.ofDocument?_toDocument (o : Operation) : ofDocument? o.toDocument = some o := by
  cases o with
  | applicationAdd descriptor targets =>
    show (asTexts (texts targets)).bind
      (fun targets ↦ some (applicationAdd descriptor targets)) = _
    rw [asTexts_texts]
    rfl
  | serverAdd node name descriptor executable libraryPath targets =>
    show (asTexts (texts targets)).bind (fun targets ↦
      some (serverAdd node name descriptor executable libraryPath targets)) = _
    rw [asTexts_texts]
    rfl
  | _ => rfl

/-- The admin tool is read back as it was written. -/
theorem Tool.ofDocument?_toDocument (r : Reading) (tool : Tool) :
    ofDocument? r tool.toDocument = some tool := by
  show (asTexts (texts tool.options)).bind
    (fun options ↦ some { tool with options }) = _
  rw [asTexts_texts]
  rfl

end Admin

/-! ## Plans -/

namespace Settings

structure Fits (h : Settings) : Prop where
  handshakeTimeoutSecs : FitsBits 64 h.handshakeTimeoutSecs
  shutdownGraceSecs : FitsBits 64 h.shutdownGraceSecs
  endpointTimeoutMs : FitsBits 64 h.endpointTimeoutMs
  traceLevel : FitsBits 8 h.traceLevel

private theorem fits_default : Fits {} := ⟨by decide, by decide, by decide, by decide⟩

/-- The documents that settings are read from. -/
theorem ofDocument?_eq_some_iff {r : Reading} {d : Document} {h : Settings} :
    ofDocument? r d = some h ↔ ∃ handshake grace identity endpoint trace,
      d.slots r ["handshake_timeout_secs", "shutdown_grace_secs", "locator_identity",
        "endpoint_timeout_ms", "trace_level"] =
          some [handshake, grace, identity, endpoint, trace] ∧
      withDefault 60 (asNat 64) handshake = some h.handshakeTimeoutSecs ∧
      withDefault 10 (asNat 64) grace = some h.shutdownGraceSecs ∧
      withDefault "IcePack/Locator" asText identity = some h.locatorIdentity ∧
      withDefault 5000 (asNat 64) endpoint = some h.endpointTimeoutMs ∧
      withDefault 0 (asNat 8) trace = some h.traceLevel := by
  constructor
  · intro hd
    obtain ⟨slots, hslots, hd⟩ := Option.bind_eq_some_iff.mp hd
    split at hd
    · next handshake grace identity endpoint trace =>
      obtain ⟨_, hhandshake, hd⟩ := Option.bind_eq_some_iff.mp hd
      obtain ⟨_, hgrace, hd⟩ := Option.bind_eq_some_iff.mp hd
      obtain ⟨_, hidentity, hd⟩ := Option.bind_eq_some_iff.mp hd
      obtain ⟨_, hendpoint, hd⟩ := Option.bind_eq_some_iff.mp hd
      obtain ⟨_, htrace, hd⟩ := Option.bind_eq_some_iff.mp hd
      cases hd
      exact ⟨handshake, grace, identity, endpoint, trace, hslots, hhandshake, hgrace, hidentity,
        hendpoint, htrace⟩
    · cases hd
  · rintro ⟨_, _, _, _, _, hslots, hhandshake, hgrace, hidentity, hendpoint, htrace⟩
    simp [ofDocument?, hslots, hhandshake, hgrace, hidentity, hendpoint, htrace]

private theorem inverts_setting (bits : Nat) {default : Nat} (h : FitsBits bits default) :
    Inverts (withDefault default (asNat bits)) (fun n ↦ some (ofNat n)) (FitsBits bits) :=
  inverts_withDefault (inverts_nat bits) h

/-- Settings are read back if their numbers fit. -/
theorem inverts (r : Reading) : Inverts (ofDocument? r) toDocument Fits where
  read_write h hfits := ofDocument?_eq_some_iff.mpr ⟨_, _, _, _, _, rfl,
    (inverts_nat 64).read_write _ hfits.handshakeTimeoutSecs,
    (inverts_nat 64).read_write _ hfits.shutdownGraceSecs, rfl,
    (inverts_nat 64).read_write _ hfits.endpointTimeoutMs,
    (inverts_nat 8).read_write _ hfits.traceLevel⟩
  fits_of_read d h hd := by
    obtain ⟨_, _, _, _, _, -, hhandshake, hgrace, -, hendpoint, htrace⟩ :=
      ofDocument?_eq_some_iff.mp hd
    exact {
      handshakeTimeoutSecs := (inverts_setting 64 (by decide)).fits_of_read _ _ hhandshake
      shutdownGraceSecs := (inverts_setting 64 (by decide)).fits_of_read _ _ hgrace
      endpointTimeoutMs := (inverts_setting 64 (by decide)).fits_of_read _ _ hendpoint
      traceLevel := (inverts_setting 8 (by decide)).fits_of_read _ _ htrace }

end Settings

namespace ServerPlan

structure Fits (s : ServerPlan) : Prop where
  readiness : s.readiness.Fits

/-- The documents that a server is read from. -/
theorem ofDocument?_eq_some_iff {r : Reading} {d : Document} {s : ServerPlan} :
    ofDocument? r d = some s ↔ ∃ label command readiness,
      d.slots r ["label", "command", "readiness"] = some [label, command, readiness] ∧
      required asText label = some s.label ∧
      required asText command = some s.command ∧
      withDefault { adapters := 1 } (Readiness.ofDocument? r) readiness = some s.readiness := by
  constructor
  · intro h
    obtain ⟨slots, hslots, h⟩ := Option.bind_eq_some_iff.mp h
    split at h
    · next label command readiness =>
      obtain ⟨_, hlabel, h⟩ := Option.bind_eq_some_iff.mp h
      obtain ⟨_, hcommand, h⟩ := Option.bind_eq_some_iff.mp h
      obtain ⟨_, hreadiness, h⟩ := Option.bind_eq_some_iff.mp h
      cases h
      exact ⟨label, command, readiness, hslots, hlabel, hcommand, hreadiness⟩
    · cases h
  · rintro ⟨_, _, _, hslots, hlabel, hcommand, hreadiness⟩
    simp [ofDocument?, hslots, hlabel, hcommand, hreadiness]

/-- Servers are read back if their numbers fit. -/
theorem inverts (r : Reading) : Inverts (ofDocument? r) toDocument Fits where
  read_write s h := ofDocument?_eq_some_iff.mpr ⟨_, _, _, rfl, rfl, rfl,
    (Readiness.inverts r).read_write _ h.readiness⟩
  fits_of_read d s h := by
    obtain ⟨_, _, _, -, -, -, hreadiness⟩ := ofDocument?_eq_some_iff.mp h
    exact ⟨(inverts_withDefault (Readiness.inverts r) ⟨by decide⟩).fits_of_read _ _ hreadiness⟩

end ServerPlan

/-- Clients are read back as they were written. -/
theorem ClientPlan.ofDocument?_toDocument (r : Reading) (c : ClientPlan) :
    ofDocument? r c.toDocument = some c := rfl

namespace Plan

/-- A plan whose numbers fit their widths. -/
structure Fits (p : Plan) : Prop where
  port : FitsBits 16 p.port
  harness : p.harness.Fits
  registry : p.registry.Fits
  node : ∀ n ∈ p.node, n.Fits
  servers : ∀ s ∈ p.servers, s.Fits

private theorem inverts_node :
    Inverts (optional NodePlan.ofDocument?) (fun n ↦ some (ofOption NodePlan.toDocument n))
      fun n ↦ ∀ x ∈ n, x.Fits :=
  inverts_optional NodePlan.inverts nofun

private theorem inverts_operations :
    Inverts (withDefault [] (asList Admin.Operation.ofDocument?))
      (fun os ↦ some (ofList Admin.Operation.toDocument os)) fun os ↦ ∀ o ∈ os, True :=
  inverts_withDefault (inverts_list (.of_forall Admin.Operation.ofDocument?_toDocument)) nofun

private theorem inverts_servers (r : Reading) :
    Inverts (withDefault [] (asList (ServerPlan.ofDocument? r)))
      (fun ss ↦ some (ofList ServerPlan.toDocument ss)) fun ss ↦ ∀ s ∈ ss, s.Fits :=
  inverts_withDefault (inverts_list (ServerPlan.inverts r)) nofun

private theorem inverts_clients (r : Reading) :
    Inverts (withDefault [] (asList (ClientPlan.ofDocument? r)))
      (fun cs ↦ some (ofList ClientPlan.toDocument cs)) fun cs ↦ ∀ c ∈ cs, True :=
  inverts_withDefault (inverts_list (.of_forall (ClientPlan.ofDocument?_toDocument r))) nofun

/-- The documents that a plan is read from. -/
theorem ofDocument?_eq_some_iff {r : Reading} {d : Document} {p : Plan} :
    ofDocument? r d = some p ↔ ∃ name testDir port harness env admin registry node provision
        servers clients deprovision,
      d.slots r ["name", "test_dir", "port", "harness", "env", "admin", "registry", "node",
        "provision", "server", "client", "deprovision"] =
          some [name, testDir, port, harness, env, admin, registry, node, provision, servers,
            clients, deprovision] ∧
      required asText name = some p.name ∧
      required Admin.Operation.asPath testDir = some p.testDir ∧
      required (asNat 16) port = some p.port ∧
      withDefault {} (Settings.ofDocument? r) harness = some p.harness ∧
      withDefault .empty Environment.ofDocument? env = some p.env ∧
      required (Admin.Tool.ofDocument? r) admin = some p.admin ∧
      required (ServicePlan.ofDocument? r) registry = some p.registry ∧
      optional NodePlan.ofDocument? node = some p.node ∧
      withDefault [] (asList Admin.Operation.ofDocument?) provision = some p.provision ∧
      withDefault [] (asList (ServerPlan.ofDocument? r)) servers = some p.servers ∧
      withDefault [] (asList (ClientPlan.ofDocument? r)) clients = some p.clients ∧
      withDefault [] (asList Admin.Operation.ofDocument?) deprovision = some p.deprovision := by
  constructor
  · intro h
    obtain ⟨slots, hslots, h⟩ := Option.bind_eq_some_iff.mp h
    split at h
    · obtain ⟨_, hname, h⟩ := Option.bind_eq_some_iff.mp h
      obtain ⟨_, htestDir, h⟩ := Option.bind_eq_some_iff.mp h
      obtain ⟨_, hport, h⟩ := Option.bind_eq_some_iff.mp h
      obtain ⟨_, hharness, h⟩ := Option.bind_eq_some_iff.mp h
      obtain ⟨_, henv, h⟩ := Option.bind_eq_some_iff.mp h
      obtain ⟨_, hadmin, h⟩ := Option.bind_eq_some_iff.mp h
      obtain ⟨_, hregistry, h⟩ := Option.bind_eq_some_iff.mp h
      obtain ⟨_, hnode, h⟩ := Option.bind_eq_some_iff.mp h
      obtain ⟨_, hprovision, h⟩ := Option.bind_eq_some_iff.mp h
      obtain ⟨_, hservers, h⟩ := Option.bind_eq_some_iff.mp h
      obtain ⟨_, hclients, h⟩ := Option.bind_eq_some_iff.mp h
      obtain ⟨_, hdeprovision, h⟩ := Option.bind_eq_some_iff.mp h
      cases h
      exact ⟨_, _, _, _, _, _, _, _, _, _, _, _, hslots, hname, htestDir, hport, hharness, henv,
        hadmin, hregistry, hnode, hprovision, hservers, hclients, hdeprovision⟩
    · cases h
  · rintro ⟨_, _, _, _, _, _, _, _, _, _, _, _, hslots, hname, htestDir, hport, hharness, henv,
      hadmin, hregistry, hnode, hprovision, hservers, hclients, hdeprovision⟩
    simp [ofDocument?, hslots, hname, htestDir, hport, hharness, henv, hadmin, hregistry, hnode,
      hprovision, hservers, hclients, hdeprovision]

/-- Plans are read back if their numbers fit. -/
theorem inverts (r : Reading) : Inverts (ofDocument? r) toDocument Fits where
  read_write p h := ofDocument?_eq_some_iff.mpr
    ⟨_, _, _, _, _, _, _, _, _, _, _, _, rfl, rfl, rfl,
      (inverts_nat 16).read_write _ h.port,
      (Settings.inverts r).read_write _ h.harness,
      Environment.inverts.read_write _ trivial,
      Admin.Tool.ofDocument?_toDocument r _,
      (ServicePlan.inverts r).read_write _ h.registry,
      inverts_node.read_write _ h.node,
      inverts_operations.read_write _ fun _ _ ↦ trivial,
      (inverts_servers r).read_write _ h.servers,
      (inverts_clients r).read_write _ fun _ _ ↦ trivial,
      inverts_operations.read_write _ fun _ _ ↦ trivial⟩
  fits_of_read d p h := by
    obtain ⟨_, _, _, _, _, _, _, _, _, _, _, _, -, -, -, hport, hharness, -, -, hregistry, hnode, -,
      hservers, -, -⟩ := ofDocument?_eq_some_iff.mp h
    exact {
      port := (inverts_required (inverts_nat 16)).fits_of_read _ _ hport
      harness := (inverts_withDefault (Settings.inverts r) Settings.fits_default).fits_of_read _ _
        hharness
      registry := (inverts_required (ServicePlan.inverts r)).fits_of_read _ _ hregistry
      node := inverts_node.fits_of_read _ _ hnode
      servers := (inverts_servers r).fits_of_read _ _ hservers }

end Plan

/-! ## Manifests -/

namespace Suite

/-- Tests are read back as they were written. -/
theorem Test.ofDocument?_toDocument (r : Reading) (t : Test) :
    ofDocument? r t.toDocument = some t := by
  show (asTexts (texts t.args)).bind (fun args ↦
    (optional asText (some (ofOption .text t.interpreter))).bind fun interpreter ↦
      some { t with args, interpreter }) = _
  rw [asTexts_texts, (inverts_optional inverts_text nofun).read_write t.interpreter]
  · rfl
  · exact fun _ _ ↦ trivial

/-- Manifests are read back as they were written. -/
theorem Manifest.inverts (r : Reading) : Inverts (ofDocument? r) toDocument fun _ ↦ True := by
  refine .of_forall fun m ↦ ?_
  show (asList (Test.ofDocument? r) (ofList Test.toDocument m.tests)).bind
    (fun tests ↦ some { m with tests }) = _
  rw [(inverts_list (.of_forall (Test.ofDocument?_toDocument r))).read_write m.tests]
  · rfl
  · exact fun _ _ ↦ trivial

end Suite

/-- Plans and manifests are read back from their documents: a plan exactly if its numbers fit their
widths, and a manifest always. Whatever document one is read from, with fields left out, given as
`null` or not known, the value is read again from the document that is written of it. -/
theorem documents_round_trip (r : Reading) :
    (∀ p : Plan, Plan.ofDocument? r p.toDocument = some p ↔ p.Fits) ∧
    (∀ m : Suite.Manifest, Suite.Manifest.ofDocument? r m.toDocument = some m) ∧
    (∀ d p, Plan.ofDocument? r d = some p → Plan.ofDocument? r p.toDocument = some p) ∧
    ∀ d m, Suite.Manifest.ofDocument? r d = some m →
      Suite.Manifest.ofDocument? r m.toDocument = some m :=
  ⟨fun _ ↦ (Plan.inverts r).read_write_iff, fun m ↦ (Suite.Manifest.inverts r).read_write m trivial,
    fun _ _ ↦ (Plan.inverts r).read_write_of_read,
    fun _ _ ↦ (Suite.Manifest.inverts r).read_write_of_read⟩

/-! ## Documents that are not what is written -/

/-- A plan with fields left out, given as `null`, in another order or not known. -/
def sparsePlanDocument : Document := .record [
  ("comment", .text "not read"),
  ("name", .text "x"), ("test_dir", .text "its"), ("port", .int 1),
  ("harness", .record [("trace_level", .int 2), ("verbose", .bool true)]),
  ("env", .record [("B", .text "2"), ("A", .text "1")]),
  ("admin", .record [("binary", .text "admin")]),
  ("registry", .record [("binary", .text "reg"), ("readiness", .null)]),
  ("node", .record [("binary", .text "node"), ("zone", .null),
    ("readiness", .record [("adapters", .int 2), ("named_ready", .null)])]),
  ("provision", .list [.record [("descriptor", .text "a.xml"), ("verb", .text "application-add")],
    .record [("verb", .text "adapter-list"), ("depth", .int 1)]]),
  ("server", .list [.record [("label", .text "s"), ("command", .text "true")]])]

/-- The plan that is read from it. -/
def sparsePlan : Plan where
  name := "x"
  testDir := ⟨"its"⟩
  port := 1
  harness := { traceLevel := 2 }
  env := .ofList [("A", "1"), ("B", "2")]
  admin := { binary := "admin" }
  registry := { binary := "reg" }
  node := some { service := { binary := "node", readiness := some { adapters := 2 } } }
  provision := [.applicationAdd ⟨"a.xml"⟩ [], .adapterList]
  servers := [{ label := "s", command := "true" }]

/-- Fields that were left out or null are read as their defaults, and written as such. -/
theorem sparse_plan_is_filled_in :
    Plan.ofDocument? .strict sparsePlanDocument = some sparsePlan ∧
      sparsePlan.toDocument.field? "client" = some (.list []) ∧
      Plan.ofDocument? .strict sparsePlan.toDocument = some sparsePlan :=
  ⟨rfl, rfl, (documents_round_trip .strict).2.2.1 sparsePlanDocument sparsePlan rfl⟩

end ClusterHarness
