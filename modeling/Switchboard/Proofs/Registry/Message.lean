import Switchboard.Proofs.Json.Codec
import Switchboard.Registry.Message

/-!
# What peers and a registry tell each other arrives

The messages of a registry survive their JSON form, whatever texts and numbers
they hold. On the way from a table to a peer a service type becomes its number
and a type again; the number of a type reads as this type
(`ServiceType.ofWire_toWire`), so that the peer sees the services that the
table has (`toDiscovered_toListing`). The other way round nothing of the kind
holds: all numbers without a type read as the same one.
-/

namespace Switchboard

namespace ServiceType

theorem mem_all (t : ServiceType) : t ∈ all := by cases t <;> decide

/-- **The number of a type reads as this type.** -/
@[simp] theorem ofWire_toWire (t : ServiceType) : ofWire t.toWire = t := by cases t <;> decide

/-- A number that is no type's reads as the unknown type. -/
theorem ofWire_of_forall_ne {n : Int32} (h : ∀ t : ServiceType, t.toWire ≠ n) :
    ofWire n = .unknown := by
  have hnone : ofWire? n = none :=
    List.find?_eq_none.mpr fun t _ ht => h t (eq_of_beq ht)
  rw [ofWire, hnone, Option.getD_none]

theorem nodup_all : all.Nodup := by decide

/-- The types are listed in their order. -/
theorem pairwise_all : all.Pairwise fun s t => s.rank < t.rank := by decide

end ServiceType

instance : LawfulJsonCodec ServiceType :=
  .ofNames ServiceType.all ServiceType.name (fun _ => rfl) (fun _ _ => rfl) (by decide)
    ServiceType.mem_all

/-- The fields of a service. -/
def ServiceInformation.record : JsonRecord ServiceInformation where
  names := ["service_type", "location"]
  values s := [JsonCodec.toJson s.serviceType, JsonCodec.toJson s.location]
  read := _
  ofJson?_eq _ _ := rfl

instance : LawfulJsonCodec ServiceInformation := ServiceInformation.record.lawful

namespace Registry

/-! ## Back and forth -/

@[simp] theorem Entry.toInformation_ofInformation (s : ServiceInformation) :
    (Entry.ofInformation s).toInformation = s := by
  unfold toInformation ofInformation
  rw [ServiceType.ofWire_toWire]

/-- **A peer sees the services that the registry tells of.** -/
@[simp] theorem toDiscovered_toListing (d : Discovered) : d.toListing.toDiscovered = d := by
  unfold Discovered.toListing Listing.toDiscovered
  dsimp only
  rw [List.map_map, show Entry.toInformation ∘ Entry.ofInformation = id from
    funext Entry.toInformation_ofInformation, List.map_id]

/-! ## In JSON -/

/-- The fields of a version. -/
def VersionMessage.record : JsonRecord VersionMessage where
  names := ["version"]
  values m := [JsonCodec.toJson m.version]
  read := _
  ofJson?_eq _ _ := rfl

instance : LawfulJsonCodec VersionMessage := VersionMessage.record.lawful

/-- The fields of an entry. -/
def Entry.record : JsonRecord Entry where
  names := ["service_type", "location"]
  values e := [JsonCodec.toJson e.serviceType, JsonCodec.toJson e.location]
  read := _
  ofJson?_eq _ _ := rfl

instance : LawfulJsonCodec Entry := Entry.record.lawful

/-- The fields of a listing. -/
def Listing.record : JsonRecord Listing where
  names := ["communication_id", "services"]
  values l := [JsonCodec.toJson l.communicationId, .array (l.services.map JsonCodec.toJson)]
  read := _
  ofJson?_eq _ _ := rfl

instance : LawfulJsonCodec Listing := Listing.record.lawful

/-- The fields of the services of a session. -/
def Discovered.record : JsonRecord Discovered where
  names := ["communication_id", "services"]
  values d := [JsonCodec.toJson d.communicationId, .array (d.services.map JsonCodec.toJson)]
  read := _
  ofJson?_eq _ _ := rfl

instance : LawfulJsonCodec Discovered := Discovered.record.lawful

end Registry

end Switchboard
