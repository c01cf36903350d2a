import AgentGraph.Node.Decode
import AgentGraph.Node.Encode
import AgentGraph.Proofs.Binary64.Integer
import AgentGraph.Proofs.Decode.Record
import AgentGraph.Proofs.Json.ReadBack

/-!
Decoding what was encoded, for single values, lists and maps.
-/

namespace AgentGraph

open Json

namespace Decoded

variable {α β ε : Type}

@[simp] theorem ok_bind (value : α) (next : α → Except ε β) :
    Except.ok value >>= next = next value := rfl

@[simp] theorem ok_map (value : α) (change : α → β) :
    change <$> (Except.ok value : Except ε α) = .ok (change value) := rfl

end Decoded

namespace Json

theorem sorted_ofDict (dict : Dict Json) :
    (ofDict dict).sorted = ofDict (dict.map fun _ value => value.sorted) := by
  have listed := Dict.ofList_entries (dict.map fun _ value => value.sorted)
  rw [ofDict, sorted_object]
  exact congrArg ofDict listed

/-- A map of values without objects is sorted as it stands. -/
theorem sorted_ofDict_map {α : Type} {encode : α → Json}
    (plain : ∀ value, (encode value).sorted = encode value) (dict : Dict α) :
    (ofDict (dict.map fun _ value => encode value)).sorted =
      ofDict (dict.map fun _ value => encode value) := by
  rw [sorted_ofDict]
  congr 1
  apply Dict.ext_entries
  simp [Dict.map, plain]

@[simp] theorem sorted_strings (texts : List String) : (strings texts).sorted = strings texts := by
  simp [strings]

@[simp] theorem sorted_ofBinary64 (value : Binary64) : (ofBinary64 value).sorted = ofBinary64 value := by
  cases value with
  | finite value => exact sorted_number _
  | infinite negative => exact sorted_null
  | nan => exact sorted_null

@[simp] theorem sorted_nat (value : Nat) : (nat value).sorted = nat value := sorted_number _

@[simp] theorem sorted_ofOption_string (value : Option String) :
    (ofOption (value.map string)).sorted = ofOption (value.map string) := by
  cases value with
  | none => exact sorted_null
  | some text => exact sorted_string text

end Json

namespace Decode

variable {α : Type}

@[simp] theorem string_string (value : String) : string (.string value) = .ok value := rfl

@[simp] theorem text_string (value : String) : text (.string value) = .ok value := rfl

@[simp] theorem truth_bool (value : Bool) : truth (.bool value) = value := rfl

theorem double_ofBinary64 {value : Binary64} (finite : value.isFinite = true) :
    double (ofBinary64 value) = .ok value := by
  cases value with
  | finite value => rfl
  | infinite negative => contradiction
  | nan => contradiction

/-- A number that is not finite is written as null, and lost. -/
@[simp] theorem number?_ofBinary64 (value : Binary64) :
    number? (ofBinary64 value) = (some value).filter Binary64.isFinite := by
  cases value with
  | finite value => rfl
  | infinite negative => rfl
  | nan => rfl

theorem string?_string {text : String} (shown : Text.isBlankText text = false) :
    string? (.string text) = some text := by
  simp [string?, shown]

theorem port?_nat {port : UInt16} (nonzero : port ≠ 0) : port? (.nat port.toNat) = some port := by
  have positive : 0 < port.toNat := by
    apply Nat.pos_of_ne_zero
    intro zero
    exact nonzero (UInt16.toNat_inj.mp zero)
  have bounded : port.toNat < 65536 := port.toNat_lt
  obtain ⟨value, exact_, sign, units⟩ :=
    Binary64.ofInt_exact positive (Nat.lt_trans bounded (by decide))
  have integral : value.isIntegral = true := by
    simp [Binary64.Finite.isIntegral, units]
  have whole : value.whole = port.toNat := by
    rw [Binary64.Finite.whole, units, Nat.mul_div_cancel _ Binary64.unitsPerOne_pos]
  have number : number? (.nat port.toNat) = some (.finite value) := by
    rw [nat, number?, Number.toBinary64, exact_]
  have fits : port.toNat ≤ 65535 := by omega
  have least : 1 ≤ port.toNat := positive
  rw [port?, number]
  simp only [integral, sign, whole]
  simp [fits, least]

/-- A port is what a value is as a double, neither cut nor rounded. -/
theorem port?_eq_some_iff {value : Json} {port : UInt16} :
    port? value = some port ↔
      port ≠ 0 ∧ number? value = some (Binary64.ofInt port.toNat) := by
  constructor
  · intro read
    unfold port? at read
    split at read
    · next found number =>
        split at read
        · next valid =>
            simp only [Bool.and_eq_true, decide_eq_true_eq, Bool.not_eq_true'] at valid
            obtain ⟨⟨⟨isIntegral, sign⟩, positive⟩, bounded⟩ := valid
            have whole : port.toNat = found.whole := by
              injection read with same
              rw [← same]
              exact Nat.mod_eq_of_lt (by omega)
            refine ⟨?_, ?_⟩
            · rintro rfl
              exact absurd whole (by change 0 ≠ found.whole; omega)
            · rw [number, whole, Binary64.ofInt_whole isIntegral sign positive (by omega)]
        · contradiction
    · contradiction
  · rintro ⟨nonzero, number⟩
    have same : number? (.nat port.toNat) = some (Binary64.ofInt port.toNat) := by
      rw [Json.nat, number?, Number.toBinary64]
    rw [← port?_nat nonzero, port?, port?, number, same]

@[simp] theorem list_strings (texts : List String) : list string (strings texts) = .ok texts :=
  Decoded.mapM_eq_ok fun text _ => string_string text

theorem dict_map {decode : Json → Decoded α} {encode : α → Json}
    (decoded : ∀ value, decode (encode value) = .ok value) (map : Dict α) :
    dict decode (ofDict (map.map fun _ value => encode value)) = .ok map := by
  have entries : (map.entries.map fun entry => (entry.1, encode entry.2)).mapM
      (fun member => do return (member.1, ← decode member.2)) =
        (.ok map.entries : Decoded (List (String × α))) := by
    apply Decoded.mapM_eq_ok
    rintro ⟨key, value⟩ inside
    simp [decoded]
  rw [ofDict, dict, Dict.map]
  simp only
  rw [entries]
  simp [Dict.ofList_entries]

theorem dict_ofDict (map : Dict Json) : dict .ok (ofDict map) = .ok map := by
  have same : (map.map fun _ value => id value) = map := Dict.ext_entries (List.map_id' _)
  have decoded := dict_map (fun value => (rfl : .ok (id value) = Except.ok value)) map
  rw [same] at decoded
  exact decoded

@[simp] theorem behaviourKind_className (kind : BehaviourKind) :
    variant BehaviourKind.variants (.string kind.className) = .ok kind := by
  cases kind with
  | cyclic | oneShot | timeout | periodic | fsm => rfl

@[simp] theorem startMode_name (mode : StartMode) :
    variant? StartMode.variants (.string mode.name) = some mode := by
  cases mode with
  | absolute => decide +kernel
  | relative => decide +kernel

end Decode

end AgentGraph
