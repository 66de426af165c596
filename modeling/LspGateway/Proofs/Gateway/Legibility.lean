import LspGateway.Proofs.Catalog.Shape
import LspGateway.Proofs.Gateway.Calls

/-! # What is told of files that cannot be read

The configuration, the metadata and the documents of calls are read alike: what cannot be
opened is told by its path. Nothing else goes wrong with them if and only if their bytes
are text, their text is JSON within the limits of the reader, and it has the shape that it
is taken for.
-/

namespace LspGateway
open Catalog

variable {fs : Files} {args : Json.Members} {method : String} {languages : List String}

/-- The document of a call, if it is in a file, has a URI that leads to text. -/
def DocumentLegible (fs : Files) (args : Json.Members) : Prop :=
  ∀ document uri, Forwarding.fileDocument? args = some (document, uri) →
    ∃ path canonical, Uri.toPath fs.cwd uri = .ok path ∧ Uri.ofPath path = .ok canonical ∧
      ReadsAsText fs path

/-- A document cannot be opened at the path that a call names. -/
def NamesPath (fs : Files) (args : Json.Members) (e : Forwarding.Error) : Prop :=
  ∃ document uri path fe, Forwarding.fileDocument? args = some (document, uri) ∧
    Uri.toPath fs.cwd uri = .ok path ∧ e = .unopened path fe

namespace Forwarding

theorem readDocument_error {path : String} : (∀ e, readDocument fs path = .error e →
    ∃ fe, e = .unopened path fe) ↔ ReadsAsText fs path := by
  rw [readsAsText_iff, readDocument]
  cases fs.read path with
  | ok text => simp
  | error e => cases e <;> simp

/-- What cannot be read of a document is told by its path if and only if it is legible. -/
theorem told_sends : (∀ e, sends fs languages method args = .error e → NamesPath fs args e) ↔
    DocumentLegible fs args := by
  rw [DocumentLegible, sends]
  cases file : fileDocument? args with
  | none => simp
  | some d =>
    obtain ⟨document, uri⟩ := d
    have named {e : Error} : NamesPath fs args e ↔
        ∃ path fe, Uri.toPath fs.cwd uri = .ok path ∧ e = .unopened path fe := by
      simp [NamesPath, file]
    simp only [named, Option.some.injEq, Prod.mk.injEq, and_imp]
    cases place : Uri.toPath fs.cwd uri with
    | error fault => simp [place]
    | ok path =>
      cases canonical : Uri.ofPath path with
      | error fault => simp [place, canonical]
      | ok canonical' =>
        have read : (∀ e, readDocument fs path = .error e → ∃ fe, e = .unopened path fe) ↔
            ReadsAsText fs path := readDocument_error
        cases contents : readDocument fs path with
        | ok text => simpa [place, canonical, contents] using read
        | error e => simpa [place, canonical, contents] using read

end Forwarding

/-- A call is sent on, or its document cannot be opened at the path that it names, if and
only if that document is legible. -/
theorem Gateway.told_planFor {r : Roster} {status : List ServerStatus} {documents : Nat} :
    (∀ e, (planFor fs r status documents (.forward method) (.obj args)).2 = .error e →
      ∃ e', e = .forwarding e' ∧ NamesPath fs (passedOn r args) e') ↔
      DocumentLegible fs (passedOn r args) := by
  rw [Service.plan_forward, ← Forwarding.told_sends]
  dsimp only
  cases Forwarding.sends fs (languagesOf r (Routing.select r args (serverProperty? r))) method
    (passedOn r args) <;> simp [Except.mapError, Except.map]

/-- What goes wrong with a file is told as it is documented, as a fault of the configuration or
by the path of the document, if and only if the file is legible: a configuration without its
comments, metadata and their parts where they are read, and the document of a call. -/
theorem files_told (fs : Files) :
    (∀ path, (∀ e, Config.load fs path = .error e →
      CommandLine.isConfigurationError e = true) ↔ IsLegible Config.stripComments fs path) ∧
    (∀ c : Catalog, Told (c.getMethods fs).2 ↔
      (c.methods = none → (c.lookups = none → MetadataShaped fs c.source) ∧
        ∀ l, (c.getLookups fs).2 = .ok l →
          ∀ id ∈ c.allowed.getD l.order, CandidateShaped l id)) ∧
    ∀ (r : Roster) (status : List Gateway.ServerStatus) (documents : Nat) (method : String)
      (args : Json.Members),
      (∀ e, (Gateway.planFor fs r status documents (.forward method) (.obj args)).2 = .error e →
        ∃ e', e = .forwarding e' ∧ NamesPath fs (Gateway.passedOn r args) e') ↔
        DocumentLegible fs (Gateway.passedOn r args) :=
  ⟨fun _ => Config.told_load, fun _ => told_getMethods, fun _ _ _ _ _ => Gateway.told_planFor⟩

/-- A configuration of one byte that is no text is neither loaded nor told of. -/
theorem load_not_told : ∃ e, Config.load (.ofList [("/c.json", .file [0xFF])] "/") "/c.json" =
    .error e ∧ CommandLine.isConfigurationError e = false :=
  ⟨.notUtf8 ⟨.startByte, 0, [0xFF]⟩, by decide, rfl⟩

end LspGateway
