import LspGateway.Schema.Registry
import LspGateway.Schema.Standard.Draft2019
import LspGateway.Schema.Standard.Draft2020
import LspGateway.Schema.Standard.Earlier

/-! # The documents of all drafts

The schemas for schemas, with the documents of their vocabularies. Any schema may refer to
them by their names.
-/

namespace LspGateway.Schema

/-- The schema for the schemas of a draft. -/
def Draft.schema : Draft → Json
  | .draft3 => Standard.Draft3.root
  | .draft4 => Standard.Draft4.root
  | .draft6 => Standard.Draft6.root
  | .draft7 => Standard.Draft7.root
  | .draft2019 => Standard.Draft2019.root
  | .draft2020 => Standard.Draft2020.root

namespace Standard

/-- The documents of the vocabularies of a draft, by the ends of their names. -/
def vocabularies : List (Draft × String × List (String × Json)) := [
  (.draft2019, Draft2019.base, Draft2019.library),
  (.draft2020, Draft2020.base,
    ("meta/format-assertion", Draft2020.formatAssertion) :: Draft2020.library)]

/-- The documents of all drafts by name. -/
def documents : List (String × Resource) :=
  Draft.all.map (fun d => (d.name, ⟨d, d.schema⟩)) ++
    vocabularies.flatMap fun (d, base, library) =>
      library.map fun (name, document) => (base ++ name, ⟨d, document⟩)

end Standard

/-- The documents of all drafts. Those of the latest share the name of an anchor that
moves. -/
def Registry.standard : Registry where
  resources := Standard.documents
  anchors := (Standard.documents.filter fun (_, r) => r.draft = .draft2020).map fun (name, r) =>
    ((name, "meta"), ⟨r, true⟩)
  unsearched := []

end LspGateway.Schema
