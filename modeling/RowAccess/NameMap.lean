/-!
# Texts by name

A name map holds one text for each of its names and lists the names in order. `put` gives a name a
text that may depend on the one it had.
-/

namespace RowAccess

/-- Names in ascending order, none of them twice. -/
def Ascending (entries : List (String × String)) : Prop := entries.Pairwise fun a b => a.1 < b.1

structure NameMap where
  entries : List (String × String)
  ascending : Ascending entries
deriving DecidableEq

namespace NameMap

def empty : NameMap := ⟨[], List.Pairwise.nil⟩

/-- The text of a name. -/
def get? (m : NameMap) (name : String) : Option String := m.entries.lookup name

def names (m : NameMap) : List String := m.entries.map (·.1)

/-- Puts a name in its place among the entries, or changes its text there. -/
def putEntry (name : String) (text : Option String → String) :
    List (String × String) → List (String × String)
  | [] => [(name, text none)]
  | e :: rest =>
      if name < e.1 then (name, text none) :: e :: rest
      else if name = e.1 then (name, text (some e.2)) :: rest
      else e :: putEntry name text rest

theorem mem_putEntry {name : String} {text : Option String → String} {e : String × String} :
    ∀ {entries : List (String × String)}, e ∈ putEntry name text entries → e.1 = name ∨ e ∈ entries
  | [], h => by simp only [putEntry, List.mem_singleton] at h; simp [h]
  | d :: rest, h => by
      unfold putEntry at h
      split at h
      · rcases List.mem_cons.mp h with rfl | h
        · exact .inl rfl
        · exact .inr h
      · split at h
        · rcases List.mem_cons.mp h with rfl | h
          · exact .inl rfl
          · exact .inr (List.mem_cons_of_mem _ h)
        · rcases List.mem_cons.mp h with rfl | h
          · exact .inr List.mem_cons_self
          · exact (mem_putEntry h).imp_right (List.mem_cons_of_mem _)

theorem ascending_putEntry {name : String} {text : Option String → String} :
    ∀ {entries : List (String × String)}, Ascending entries → Ascending (putEntry name text entries)
  | [], _ => by simp [putEntry, Ascending]
  | d :: rest, h => by
      obtain ⟨hd, hrest⟩ := List.pairwise_cons.mp h
      unfold putEntry
      split
      next hlt =>
        refine List.pairwise_cons.mpr ⟨fun e he => ?_, h⟩
        rcases List.mem_cons.mp he with rfl | he
        · exact hlt
        · exact String.lt_trans hlt (hd e he)
      next hnlt =>
        split
        next heq => exact List.pairwise_cons.mpr ⟨fun e he => heq ▸ hd e he, hrest⟩
        next hne =>
          refine List.pairwise_cons.mpr ⟨fun e he => ?_, ascending_putEntry hrest⟩
          rcases mem_putEntry he with h | h
          · rw [h]
            exact Std.lt_of_le_of_ne (String.not_lt.mp hnlt) fun h => hne h.symm
          · exact hd e h

/-- Gives a name a text, from the one it had. -/
def put (m : NameMap) (name : String) (text : Option String → String) : NameMap :=
  ⟨putEntry name text m.entries, ascending_putEntry m.ascending⟩

/-- The map of a list of entries. Of two with one name the later counts. -/
def ofList (entries : List (String × String)) : NameMap :=
  entries.foldl (fun m e => m.put e.1 fun _ => e.2) empty

end NameMap

end RowAccess
