import CheatCodes.Cheats
import CheatCodes.Proofs.Json.Faithful
import CheatCodes.Saved.Config
import CheatCodes.Saved.Input
/-!
What is saved as JSON is read back as it was. Records are written as objects of all their fields,
so no field is missing when they are read and none takes its standard value; only the recorded
events of a world are left out. A set of players may be given in any order and is written in
ascending order.
-/
namespace CheatCodes
open Json (Codec Faithful encode decode? decode_encode)

instance : Faithful PlayerId where
  decode_encode p := by unfold instCodecPlayerId; simp
  encode_ne_null _ := nofun

instance : Faithful PlayerSet where
  decode_encode s := by unfold instCodecPlayerSet; simp
  encode_ne_null _ := nofun

instance : Faithful Point where
  decode_encode pt := by unfold instCodecPoint; simp [List.lookup_cons]
  encode_ne_null _ := nofun

instance : Faithful Resource where
  decode_encode r := by unfold instCodecResource; simp [List.lookup_cons]
  encode_ne_null _ := nofun

instance : Faithful Building where
  decode_encode b := by unfold instCodecBuilding; simp [List.lookup_cons]
  encode_ne_null _ := nofun

instance : Faithful NodeObject where
  decode_encode object := by
    cases object with
    | nothing => rfl
    | environment => rfl
    | building b =>
      have body : Json.body? (some (encode b)) = some (encode b) := rfl
      unfold instCodecNodeObject
      simp [Json.variant?, body]
  encode_ne_null object := by cases object <;> nofun

instance : Faithful Node where
  decode_encode n := by unfold instCodecNode; simp [Json.optional?, List.lookup_cons]
  encode_ne_null _ := nofun

instance : Faithful Player where
  decode_encode p := by unfold instCodecPlayer; simp [Json.optional?, List.lookup_cons]
  encode_ne_null _ := nofun

theorem decode_encode_world (w : World) : decode? (encode w) = some { w with events := #[] } := by
  unfold instCodecWorld
  simp [List.lookup_cons]

instance : Faithful Event where
  decode_encode e := by
    cases e with
    | visibilityChanged => rfl
    | _ =>
      unfold instCodecEvent
      simp [Json.variant?, Json.body?, List.lookup_cons, decodeBuildingEvent]
  encode_ne_null e := by cases e <;> nofun

instance : Faithful AiInfo where
  decode_encode ai := by unfold instCodecAiInfo; simp [Json.defaulted?, List.lookup_cons]
  encode_ne_null _ := nofun

theorem Duration.encode_eq_parts (d : Duration) :
    encode d = .obj [("secs", encode d.secs.toUInt64), ("nanos", encode d.nanos.toUInt32)] := by
  simp only [encode, toNat_secs, toNat_nanos]

theorem Duration.decode_parts (secs : UInt64) (nanos : UInt32) :
    decode? (.obj [("secs", encode secs), ("nanos", encode nanos)]) =
      ofParts? secs.toNat nanos.toNat := by
  have first : (Json.obj [("secs", encode secs), ("nanos", encode nanos)]).required? 0 "secs" =
      some secs := by simp
  have second : (Json.obj [("secs", encode secs), ("nanos", encode nanos)]).required? 1 "nanos" =
      some nanos := by simp [List.lookup_cons]
  have shape : ((Json.obj [("secs", encode secs), ("nanos", encode nanos)]).isRecord 2 &&
      (Json.obj [("secs", encode secs), ("nanos", encode nanos)]).hasOnly ["secs", "nanos"]) =
        true := by simp [Json.hasOnly]
  unfold instCodecDuration
  dsimp only
  -- A closing `rfl` would compare the bound of a length digit by digit.
  rw [if_pos shape, first, second, Option.bind_eq_bind, Option.bind_some, Option.bind_eq_bind,
    Option.bind_some]

instance : Faithful Duration where
  decode_encode d := by
    rw [d.encode_eq_parts, Duration.decode_parts, d.toNat_secs, d.toNat_nanos,
      d.ofParts?_secs_nanos]
  encode_ne_null _ := nofun

instance : Faithful Client where
  decode_encode c := by unfold instCodecClient; simp [Json.optional?, List.lookup_cons]
  encode_ne_null _ := nofun

instance : Faithful KeyEvent where
  decode_encode e := by unfold instCodecKeyEvent; simp [List.lookup_cons]
  encode_ne_null _ := nofun

instance : Faithful CheatAction where
  decode_encode action := by
    cases action with
    | setSpeed step => unfold instCodecCheatAction; simp [Json.variant?]
    | destroyBuildings players => unfold instCodecCheatAction; simp [Json.variant?]
    | _ => rfl
  encode_ne_null action := by cases action <;> nofun

instance : Faithful ChatTable where
  decode_encode t := by
    have read (es : List (String × ChatCheat)) :
        (es.map fun e => (e.1, encode e.2)).mapM
          (fun f => (decode? f.2).map fun cheat => (f.1, cheat)) = some es := by
      induction es with
      | nil => rfl
      | cons e es ih => simp [ih]
    unfold instCodecChatTable
    simp only [read, Option.map_some, ChatTable.ofList_entries]
  encode_ne_null _ := nofun

instance : Faithful TrackerConfig where
  decode_encode c := by unfold instCodecTrackerConfig; simp [Json.defaulted?, List.lookup_cons]
  encode_ne_null _ := nofun

instance : Faithful CheatConfig where
  decode_encode c := by unfold instCodecCheatConfig; simp [Json.defaulted?, List.lookup_cons]
  encode_ne_null _ := nofun

/-! Reading other forms. -/

theorem events_of_decode {j : Json} {w : World} (h : decode? j = some w) : w.events = #[] := by
  unfold instCodecWorld at h
  simp only [Option.ite_none_right_eq_some, Option.bind_eq_bind, Option.bind_eq_some_iff,
    Option.pure_def, Option.some.injEq] at h
  obtain ⟨_, _, _, _, _, _, _, _, _, rfl⟩ := h
  rfl

theorem eq_encode_of_decode_slot {j : Json} {p : PlayerId} (h : decode? j = some p) :
    j = encode p := by
  cases j with
  | int n =>
    simp only [decode?, Json.natural?, Option.map_map, Option.map_eq_some_iff] at h
    obtain ⟨a, read, rfl⟩ := h
    split at read
    · rename_i within
      cases read
      simp only [Function.comp_apply, encode, Json.int.injEq, Nat.toUInt8_eq, UInt8.toNat_ofNat']
      omega
    · cases read
  | _ => simp [decode?, Json.natural?] at h

theorem mapM_decode_slots_iff {items : List Json} {ids : List PlayerId} :
    items.mapM decode? = some ids ↔ items = ids.map encode := by
  constructor
  · intro h
    induction items generalizing ids with
    | nil => simp_all
    | cons j items ih =>
      simp only [List.mapM_cons, Option.bind_eq_bind, Option.bind_eq_some_iff, Option.pure_def,
        Option.some.injEq] at h
      obtain ⟨id, first, others, rest, rfl⟩ := h
      rw [List.map_cons, ← ih rest, eq_encode_of_decode_slot first]
  · rintro rfl
    exact Json.mapM_decode_encode ids

theorem eq_obj_of_variant? {j content : Json} {name : String}
    (h : j.variant? = some (name, some content)) : j = .obj [(name, content)] := by
  unfold Json.variant? at h
  split at h
  · cases h
  · cases h
    rfl
  · cases h

theorem bareAction?_ne_destroyBuildings {name : String} {players : PlayerSet} :
    bareAction? name ≠ some (.destroyBuildings players) := by
  unfold bareAction?
  split <;> nofun

theorem decode_destroyBuildings_iff {j : Json} {players : PlayerSet} :
    decode? j = some (CheatAction.destroyBuildings players) ↔
      ∃ ids : List PlayerId, j = .obj [("DestroyBuildings", .arr (ids.map encode))] ∧
        players = .ofList ids := by
  constructor
  · intro h
    unfold instCodecCheatAction at h
    simp only [Option.bind_eq_bind, Option.bind_eq_some_iff, Option.pure_def] at h
    obtain ⟨⟨name, content⟩, variant, h⟩ := h
    split at h
    · simp only [Option.bind_eq_some_iff, Option.some.injEq] at h
      obtain ⟨_, _, _, _, other⟩ := h
      cases other
    · rename_i known
      simp only [Option.bind_eq_some_iff, Option.some.injEq, CheatAction.destroyBuildings.injEq]
        at h
      obtain ⟨content, rfl, set, read, rfl⟩ := h
      obtain rfl : name = "DestroyBuildings" := known
      unfold instCodecPlayerSet at read
      obtain ⟨ids, listed, rfl⟩ := Option.map_eq_some_iff.1 read
      obtain ⟨items, rfl⟩ : ∃ items, content = .arr items := by
        cases content with
        | arr items => exact ⟨items, rfl⟩
        | _ => cases listed
      exact ⟨ids, by rw [eq_obj_of_variant? variant, mapM_decode_slots_iff.1 listed], rfl⟩
    · split at h
      · exact absurd h bareAction?_ne_destroyBuildings
      · cases h
  · rintro ⟨ids, rfl, rfl⟩
    have listed : decode? (Json.arr (ids.map encode)) = some ids := decode_encode ids
    have read : decode? (Json.arr (ids.map encode)) = some (PlayerSet.ofList ids) := by
      unfold instCodecPlayerSet
      simp only [listed, Option.map_some]
    unfold instCodecCheatAction
    simp [Json.variant?, read]

/-! The main statement. -/

/-- Reading undoes writing, so whatever form a value was read from, the form that is written of it
reads the same. -/
structure Restored (α : Type) [Codec α] : Prop where
  written (v : α) : decode? (encode v) = some v
  read (j : Json) (v : α) : decode? j = some v → decode? (encode v) = some v

theorem restored {α : Type} [Codec α] [Faithful α] : Restored α :=
  ⟨decode_encode, fun _ v _ => decode_encode v⟩

/-- A world is restored but for its recorded events, all else entirely; and the players that a
cheat destroys the buildings of are written in ascending order, each once. -/
theorem saved_restored :
    ((∀ w : World, decode? (encode w) = some { w with events := #[] }) ∧
      ∀ (j : Json) (w : World), decode? j = some w → decode? (encode w) = some w) ∧
    (Restored Client ∧ Restored KeyEvent ∧ Restored CheatAction ∧ Restored TrackerConfig ∧
      Restored CheatConfig ∧ Restored Event ∧ Restored Node ∧ Restored NodeObject ∧
      Restored Player ∧ Restored Resource) ∧
    (Restored Point ∧ Restored PlayerId ∧ Restored Duration ∧ Restored AiInfo ∧
      Restored AiKind ∧ Restored AiLevel ∧ Restored ClientState ∧ Restored KeyKind ∧
      Restored ChatCheat ∧ Restored BuildingKind ∧ Restored Nation ∧ Restored Control ∧
      Restored Quality ∧ Restored ResourceKind ∧ Restored RevealMode) ∧
    ∀ (j : Json) (players : PlayerSet), decode? j = some (CheatAction.destroyBuildings players) →
      ∃ given written : List PlayerId,
        j = .obj [("DestroyBuildings", .arr (given.map encode))] ∧
        encode (CheatAction.destroyBuildings players) =
          .obj [("DestroyBuildings", .arr (written.map encode))] ∧
        written.Pairwise (· < ·) ∧ ∀ p, p ∈ written ↔ p ∈ given := by
  refine ⟨⟨decode_encode_world, fun j w h => ?_⟩, ?_, ?_, fun j players h => ?_⟩
  · rw [decode_encode_world, ← events_of_decode h]
  · exact ⟨restored, restored, restored, restored, restored, restored, restored, restored,
      restored, restored⟩
  · exact ⟨restored, restored, restored, restored, restored, restored, restored, restored,
      restored, restored, restored, restored, restored, restored, restored⟩
  · obtain ⟨given, rfl, rfl⟩ := decode_destroyBuildings_iff.1 h
    exact ⟨given, (PlayerSet.ofList given).ids, rfl, rfl, (PlayerSet.ofList given).ascending,
      fun p => PlayerSet.mem_ofList⟩

theorem saved_restored_shuffled :
    decode? (.obj [("DestroyBuildings", .arr [.int 2, .int 0, .int 2])]) =
      some (CheatAction.destroyBuildings (.ofList [⟨2⟩, ⟨0⟩, ⟨2⟩])) ∧
    ∃ given written : List PlayerId,
      Json.obj [("DestroyBuildings", .arr [.int 2, .int 0, .int 2])] =
        .obj [("DestroyBuildings", .arr (given.map encode))] ∧
      encode (CheatAction.destroyBuildings (.ofList [⟨2⟩, ⟨0⟩, ⟨2⟩])) =
        .obj [("DestroyBuildings", .arr (written.map encode))] ∧
      written.Pairwise (· < ·) ∧ ∀ p, p ∈ written ↔ p ∈ given := by
  have read : decode? (.obj [("DestroyBuildings", .arr [.int 2, .int 0, .int 2])]) =
      some (CheatAction.destroyBuildings (.ofList [⟨2⟩, ⟨0⟩, ⟨2⟩])) := rfl
  exact ⟨read, saved_restored.2.2.2 _ _ read⟩

end CheatCodes
