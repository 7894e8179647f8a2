import MathTokens.Json.Decoding
import MathTokens.Proofs.JsonReading

/-! Objects as records. If no name stands twice, a member is found by its name wherever it stands, so the
order of the members does not matter, neither the one they are written in nor the one they are kept in. -/
namespace MathTokens

namespace Json

def decode? {α : Type} (read : Json → Option α) (cs : List Char) : Option α := (parse? cs).bind read

theorem decodeWritten {α : Type} (read : Json → Option α) (l : Layout) {j : Json} (plain : Plain j) :
    decode? read (write l 0 "" j).toList = read j := by
  rw [decode?, parseWritten l plain, Option.bind_some]

theorem memberIff {members : List (String × Json)} (apart : (members.map (·.1)).Nodup) (name : String)
    (value : Json) : member? name members = some value ↔ (name, value) ∈ members := by
  induction members with
  | nil => simp [member?]
  | cons first rest ih =>
    obtain ⟨key, v⟩ := first
    obtain ⟨absent, apart⟩ := List.nodup_cons.mp apart
    have later := ih apart
    rw [member?, List.find?_cons]
    split
    · next same =>
      obtain rfl : key = name := by simpa using same
      have elsewhere : (key, value) ∉ rest := fun found =>
        absent (List.mem_map.mpr ⟨(key, value), found, rfl⟩)
      simp [elsewhere, eq_comm]
    · next other =>
      have unlike : name ≠ key := fun same => by simp [same] at other
      rw [← member?, later]
      simp [unlike]

theorem memberAppend (name : String) (members more : List (String × Json)) :
    member? name (members ++ more) = (member? name members).or (member? name more) := by
  rw [member?, List.find?_append, Option.map_or]
  rfl

theorem memberReordered {members given : List (String × Json)} (order : members.Perm given)
    (apart : (given.map (·.1)).Nodup) (name : String) : member? name members = member? name given := by
  have apart' : (members.map (·.1)).Nodup := (order.map _).nodup_iff.mpr apart
  refine Option.ext fun value => ?_
  rw [memberIff apart', memberIff apart, order.mem_iff]

theorem fieldsReordered {members given : List (String × Json)} (order : members.Perm given)
    (apart : (given.map (·.1)).Nodup) (names : List String) :
    fields? names (.object members) = fields? names (.object given) := by
  have counts (name : String) :
    members.countP (fun member => member.1 == name) = given.countP (fun member => member.1 == name) :=
    order.countP_eq _
  simp only [fields?, counts, memberReordered order apart]

theorem plainReordered {members given : List (String × Json)} (order : members.Perm given)
    (each : ∀ member ∈ given, Plain member.2) : Plain (.object members) :=
  .object fun member inside => each member (order.mem_iff.mp inside)

theorem insertMemberAdds {members : List (String × Json)} {key : String}
    (absent : key ∉ members.map (·.1)) (value : Json) :
    (insertMember key value members).Perm ((key, value) :: members) := by
  induction members with
  | nil => exact .refl _
  | cons first rest ih =>
    obtain ⟨k, v⟩ := first
    obtain ⟨unlike, absent⟩ := not_or.mp (mt List.mem_cons.mpr absent)
    rw [insertMember]
    split
    · exact .refl _
    · exact ((ih absent).cons (k, v)).trans (.swap _ _ _)

theorem insertAll {given members : List (String × Json)}
    (apart : ((given ++ members).map (·.1)).Nodup) :
    (given.foldl (fun sorted (k, v) => insertMember k v sorted) members).Perm (given ++ members) := by
  induction given generalizing members with
  | nil => exact .refl _
  | cons first rest ih =>
    obtain ⟨key, value⟩ := first
    -- the member joins those that are kept, where the others of the list must not meet its name
    have turned : (rest ++ (key, value) :: members).Perm ((key, value) :: rest ++ members) :=
      List.perm_middle
    have apart' : ((rest ++ (key, value) :: members).map (·.1)).Nodup :=
      (turned.map _).nodup_iff.mpr apart
    obtain ⟨-, later, -⟩ := List.nodup_append.mp (List.map_append ▸ apart')
    have added := insertMemberAdds (List.nodup_cons.mp later).1 value
    have same := (added.append_left rest).map (·.1)
    exact ((ih (same.nodup_iff.mpr apart')).trans (added.append_left rest)).trans turned

theorem ofMembersOrder {given : List (String × Json)} (apart : (given.map (·.1)).Nodup) :
    ∃ members, ofMembers given = .object members ∧ members.Perm given := by
  have order := @insertAll given [] (by rwa [List.append_nil])
  rw [List.append_nil] at order
  exact ⟨_, rfl, order⟩

end Json
end MathTokens
