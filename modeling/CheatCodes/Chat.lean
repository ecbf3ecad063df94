import CheatCodes.Action
/-!
Cheats that are entered as chat lines. A table keeps its lines in ascending order and each line
once, so two tables with the same entries are equal; a line is matched as a whole.
-/
namespace CheatCodes

inductive ChatCheat where
  | armageddon
  | enableAllBuildings
  deriving DecidableEq, Repr, Inhabited

namespace ChatCheat

instance : Named ChatCheat where
  members := [.armageddon, .enableAllBuildings]
  name
    | .armageddon => "armageddon"
    | .enableAllBuildings => "enable_all_buildings"
  find_name a := by cases a <;> rfl

def action : ChatCheat → CheatAction
  | .armageddon => .armageddon
  | .enableAllBuildings => .toggleAllBuildings

end ChatCheat

structure ChatTable where
  entries : List (String × ChatCheat)
  ascending : (entries.map (·.1)).Pairwise (· < ·)
  deriving Repr

namespace ChatTable

instance : DecidableEq ChatTable := fun a b =>
  decidable_of_iff (a.entries = b.entries) (by cases a; cases b; simp)

theorem ext_entries {a b : ChatTable} (h : a.entries = b.entries) : a = b := by
  cases a
  cases b
  simpa using h

def empty : ChatTable := ⟨[], .nil⟩

def lookup (t : ChatTable) (line : String) : Option ChatCheat :=
  t.entries.lookup line

def lines (t : ChatTable) : List String :=
  t.entries.map (·.1)

/-- Puts an entry where the order wants it, in the place of an entry for the same line. -/
def place (line : String) (cheat : ChatCheat) :
    List (String × ChatCheat) → List (String × ChatCheat)
  | [] => [(line, cheat)]
  | (key, value) :: rest =>
    if line < key then (line, cheat) :: (key, value) :: rest
    else if key < line then (key, value) :: place line cheat rest
    else (line, cheat) :: rest

theorem mem_lines_place {line key : String} {cheat : ChatCheat} {es : List (String × ChatCheat)} :
    key ∈ (place line cheat es).map (·.1) → key = line ∨ key ∈ es.map (·.1) := by
  induction es with
  | nil => simp [place]
  | cons e rest ih =>
    obtain ⟨k, v⟩ := e
    intro h
    simp only [place] at h
    split at h
    · simpa using h
    · split at h
      · simp only [List.map_cons, List.mem_cons] at h ⊢
        rcases h with h | h
        · exact .inr (.inl h)
        · exact (ih h).imp_right .inr
      · simp only [List.map_cons, List.mem_cons] at h ⊢
        exact h.imp_right .inr

theorem pairwise_place {line : String} {cheat : ChatCheat} {es : List (String × ChatCheat)}
    (h : (es.map (·.1)).Pairwise (· < ·)) :
    ((place line cheat es).map (·.1)).Pairwise (· < ·) := by
  induction es with
  | nil => simp [place]
  | cons e rest ih =>
    obtain ⟨k, v⟩ := e
    simp only [List.map_cons, List.pairwise_cons] at h
    obtain ⟨least, rest_ascending⟩ := h
    simp only [place]
    split
    · rename_i before
      simp only [List.map_cons, List.pairwise_cons, List.mem_cons]
      refine ⟨fun a ha => ?_, least, rest_ascending⟩
      rcases ha with rfl | ha
      · exact before
      · exact String.lt_trans before (least a ha)
    · split
      · rename_i after
        simp only [List.map_cons, List.pairwise_cons]
        refine ⟨fun a ha => ?_, ih rest_ascending⟩
        rcases mem_lines_place ha with rfl | ha
        · exact after
        · exact least a ha
      · rename_i before after
        have same : line = k := String.le_antisymm (String.not_lt.1 after) (String.not_lt.1 before)
        subst same
        simp only [List.map_cons, List.pairwise_cons]
        exact ⟨least, rest_ascending⟩

def insert (t : ChatTable) (line : String) (cheat : ChatCheat) : ChatTable :=
  ⟨place line cheat t.entries, pairwise_place t.ascending⟩

/-- The table of some entries; the last one for a line counts. -/
def ofList (entries : List (String × ChatCheat)) : ChatTable :=
  entries.foldl (fun t e => t.insert e.1 e.2) empty

theorem place_last {line : String} {es : List (String × ChatCheat)}
    (last : ∀ e ∈ es, e.1 < line) (cheat : ChatCheat) :
    place line cheat es = es ++ [(line, cheat)] := by
  induction es with
  | nil => rfl
  | cons e rest ih =>
    obtain ⟨key, value⟩ := e
    have before : key < line := last _ List.mem_cons_self
    have after : ¬ line < key := String.lt_asymm before
    simp [place, before, after, ih fun e member => last e (List.mem_cons_of_mem _ member)]

theorem foldl_insert_entries {t : ChatTable} {es : List (String × ChatCheat)}
    (ascending : ((t.entries ++ es).map (·.1)).Pairwise (· < ·)) :
    (es.foldl (fun t e => t.insert e.1 e.2) t).entries = t.entries ++ es := by
  induction es generalizing t with
  | nil => simp
  | cons e es ih =>
    have last : ∀ f ∈ t.entries, f.1 < e.1 := by
      intro f member
      rw [List.map_append, List.pairwise_append] at ascending
      exact ascending.2.2 _ (List.mem_map_of_mem member) _ (by simp)
    have grown : (t.insert e.1 e.2).entries = t.entries ++ [e] := place_last last e.2
    rw [List.foldl_cons, ih (by simpa [grown] using ascending), grown, List.append_assoc]
    rfl

@[simp] theorem ofList_entries (t : ChatTable) : ofList t.entries = t :=
  ext_entries (foldl_insert_entries t.ascending)

def track (t : ChatTable) (line : String) : Option CheatAction :=
  (t.lookup line).map (·.action)

end ChatTable

end CheatCodes
