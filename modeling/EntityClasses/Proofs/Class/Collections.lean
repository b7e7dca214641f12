import EntityClasses.Proofs.Casing.Dropped
import EntityClasses.Proofs.Name.Nameless
import EntityClasses.Proofs.Snapshot.Directions

/-!
# Names of collections

A collection is named by a plural, and no plural is empty but that of the empty name. So the member
of an incoming relation lacks a name exactly if the casing of members leaves nothing of its field.
-/
namespace EntityClasses

open ClassLayout

theorem Name.pluralize_eq_empty_iff {name : String} : pluralize name = "" ↔ name = "" := by
  constructor
  · intro hplural
    by_contra hname
    exact Inflection.plural_ne_empty _ ((inflect_eq_empty_iff hname).1 hplural).2
  · rintro rfl
    rfl

namespace Config

variable {c : Config} {raw : String}

theorem memberFor_eq_empty_iff :
    c.memberFor raw = "" ↔ ∀ ch ∈ raw.toList, c.fieldCasing.Drops ch :=
  Casing.convert_eq_empty_iff

theorem collectionFor_eq_empty_iff : c.collectionFor raw = "" ↔ c.memberFor raw = "" :=
  Name.pluralize_eq_empty_iff

end Config

/-- The plural of a name is empty only if the name is. So a collection lacks a name exactly if the
casing of members leaves none, and that is if it drops each character of the field. A class has one
collection for each incoming relation that is kept, in their order. -/
theorem collection_nameless_iff (d : Dialect) (c : Config) (e : Entity) :
    (∀ name, Name.pluralize name = "" ↔ name = "") ∧
    (∀ raw, (c.collectionFor raw = "" ↔ c.memberFor raw = "") ∧
      (c.memberFor raw = "" ↔ ∀ ch ∈ raw.toList, c.fieldCasing.Drops ch)) ∧
    ∀ l, build d c e = .ok l → List.Forall₂ (fun r m => m.key = r.field ∧
      (m.name = "" ↔ ∀ ch ∈ r.field.toList, c.fieldCasing.Drops ch)) (e.keptIncoming c)
        l.collections := by
  refine ⟨fun _ => Name.pluralize_eq_empty_iff,
    fun _ => ⟨Config.collectionFor_eq_empty_iff, Config.memberFor_eq_empty_iff⟩, ?_⟩
  intro l hl
  rw [collections_of_build hl, List.forall₂_map_right_iff, List.forall₂_same]
  intro r _
  exact ⟨rfl, Config.collectionFor_eq_empty_iff.trans Config.memberFor_eq_empty_iff⟩

/-- Orders and carts refer to a customer. Of the second constraint only an underscore is left for a
field. -/
def customer : Entity where
  name := "customers"
  fields := []
  outgoing := []
  incoming := [⟨"orders", "orders_customer_fk", "shop"⟩, ⟨"carts", "__customer_fk", "shop"⟩].map
    (.ofIncoming true)

theorem carts_nameless :
    customer.incoming.map (·.field) = ["orders", "_"] ∧
    ∃ l, build .php .default customer = .ok l ∧ l.collections.map (·.name) = ["orders", ""] ∧
      List.Forall₂ (fun r m => m.key = r.field ∧
        (m.name = "" ↔ ∀ ch ∈ r.field.toList, Casing.camel.Drops ch)) customer.incoming
          l.collections := by
  let l := ofColumns .php .default customer []
  have hbuild : build .php .default customer = .ok l := rfl
  obtain ⟨-, -, hcollections⟩ := collection_nameless_iff .php .default customer
  exact ⟨by decide +kernel, l, hbuild, by decide +kernel, hcollections l hbuild⟩

end EntityClasses
