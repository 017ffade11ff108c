import AttributeProfiles.Proofs.Building
import AttributeProfiles.Proofs.NameOwners

/-!
# How the owners of external names change

While a mapper is built, an external name goes from hand to hand: each attribute that lists it takes
it from the attribute that listed it before. Every change is logged once, so the log of one name is
the chain of its owners. What other names and other profiles do in between, and how often a list
repeats the name, leaves no trace in it.
-/

namespace AttributeProfiles

/-- An event tells of a change of owner of an external name of a profile. -/
def Event.TellsOwner (profile external : String) (e : Event) : Prop :=
  e.message = "external attribute remapped, last mapping wins" ∧
    ("profile", .text profile) ∈ e.fields ∧ ("external", .text external) ∈ e.fields

instance (profile external : String) (e : Event) : Decidable (e.TellsOwner profile external) :=
  inferInstanceAs (Decidable (_ ∧ _ ∧ _))

theorem Event.tellsOwner_nameTaken_iff {profile external previous internal p n : String} :
    (Event.nameTaken profile external previous internal).TellsOwner p n ↔
      p = profile ∧ n = external := by
  simp [TellsOwner, message, fields]

theorem Event.not_tellsOwner_mapperReady (profile external : String) (a b c : Nat) :
    ¬ (Event.mapperReady a b c).TellsOwner profile external := by
  simp [TellsOwner, message]

/-- The changes of owner of an external name of a profile, as a computation logs them. -/
def Eventful.ownerChanges {α : Type} (x : Eventful α) (profile external : String) : List Event :=
  x.events.filter (·.TellsOwner profile external)

/-- The internal attributes that list an external name for a profile, in declaration order. -/
def AttributeTable.listing (t : AttributeTable) (profile external : String) : List String :=
  (t.entries.filter fun e => external ∈ (e.2.get? profile).getD []).map Prod.fst

/-- The events that tell how a name goes from each of its owners to the next. -/
def handedOn (profile external : String) (owners : List String) : List Event :=
  List.zipWith (Event.nameTaken profile external) owners owners.tail

theorem handedOn_cons_cons (profile external first second : String) (owners : List String) :
    handedOn profile external (first :: second :: owners) =
      .nameTaken profile external first second :: handedOn profile external (second :: owners) :=
  rfl

namespace NameIndex

variable {p n : String}

theorem ownerChanges_bind {α β : Type} (x : Eventful α) (f : α → Eventful β) :
    Eventful.ownerChanges (x >>= f) p n =
      x.ownerChanges p n ++ (f x.value).ownerChanges p n := by
  rw [Eventful.ownerChanges, Logged.bind_events, List.filter_append]
  rfl

/-- The events of an attribute that takes a name from its owner: one if the owner is another. -/
def taking (profile external : String) (owner : Option String) (internal : String) : List Event :=
  match owner with
  | some previous =>
    if previous = internal then [] else [.nameTaken profile external previous internal]
  | none => []

theorem taking_self (profile external internal : String) :
    taking profile external (some internal) internal = [] :=
  if_pos rfl

theorem exists_of_mem_taking {profile external internal : String} {owner : Option String}
    {e : Event} (h : e ∈ taking profile external owner internal) :
    ∃ previous, e = .nameTaken profile external previous internal := by
  unfold taking at h
  split at h
  · split at h
    · cases h
    · exact ⟨_, List.mem_singleton.1 h⟩
  · cases h

/-- Taking a name is seen in the log of this name and of no other. -/
theorem filter_taking (profile external : String) (owner : Option String) (internal : String) :
    (taking profile external owner internal).filter (·.TellsOwner p n) =
      if p = profile ∧ n = external then taking p n owner internal else [] := by
  split
  next h =>
    rw [← h.1, ← h.2, List.filter_eq_self]
    intro e he
    obtain ⟨previous, rfl⟩ := exists_of_mem_taking he
    exact decide_eq_true (Event.tellsOwner_nameTaken_iff.2 ⟨rfl, rfl⟩)
  next h =>
    rw [List.filter_eq_nil_iff]
    intro e he
    obtain ⟨previous, rfl⟩ := exists_of_mem_taking he
    simpa [Event.tellsOwner_nameTaken_iff] using h

theorem assign_events (internal profile : String) (index : NameIndex) (external : String) :
    (assign internal profile index external).events =
      taking profile external (index.owner? profile external) internal := by
  unfold assign owner? taking
  dsimp only
  cases (index.owners profile).get? external with
  | none => rfl
  | some previous => by_cases h : previous = internal <;> simp [h]

theorem ownerChanges_assign (internal profile : String) (index : NameIndex) (external : String) :
    (assign internal profile index external).ownerChanges p n =
      if p = profile ∧ n = external then taking p n (index.owner? p n) internal else [] := by
  rw [Eventful.ownerChanges, assign_events, filter_taking]
  split
  next h => rw [h.1, h.2]
  · rfl

/-- A list that has a name takes it once, however often it repeats the name. -/
theorem ownerChanges_foldlM_assign (internal profile : String) (names : List String)
    (index : NameIndex) :
    Eventful.ownerChanges (names.foldlM (assign internal profile) index) p n =
      if p = profile ∧ n ∈ names then taking p n (index.owner? p n) internal else [] := by
  induction names generalizing index with
  | nil => simp [Eventful.ownerChanges]
  | cons name names ih =>
    rw [List.foldlM_cons, ownerChanges_bind, ih, ownerChanges_assign, owner?_assign]
    by_cases hp : p = profile <;> by_cases hn : n = name <;> simp [hp, hn, taking_self]

theorem ownerChanges_assignList (internal : String) (index : NameIndex)
    (list : String × List String) :
    (assignList internal index list).ownerChanges p n =
      if p = list.1 ∧ n ∈ list.2 then taking p n (index.owner? p n) internal else [] := by
  rw [assignList, ownerChanges_foldlM_assign, owner?_insert_owners]

theorem ownerChanges_foldlM_assignList (internal : String) {lists : List (String × List String)}
    (distinct : (lists.map Prod.fst).Nodup) (index : NameIndex) :
    Eventful.ownerChanges (lists.foldlM (assignList internal) index) p n =
      if n ∈ (lists.lookup p).getD [] then taking p n (index.owner? p n) internal else [] := by
  induction lists generalizing index with
  | nil => simp [Eventful.ownerChanges]
  | cons list lists ih =>
    obtain ⟨hhead, htail⟩ := List.nodup_cons.1 distinct
    rw [List.foldlM_cons, ownerChanges_bind, ih htail, ownerChanges_assignList, owner?_assignList,
      Entries.lookup_cons]
    by_cases hp : p = list.1
    · have habsent : lists.lookup p = none := by
        rw [hp]
        exact Entries.lookup_eq_none_iff.2 hhead
      simp [hp ▸ habsent, hp]
    · simp [hp]

theorem ownerChanges_assignLists (index : NameIndex) (entry : String × NameLists) :
    (assignLists index entry).ownerChanges p n =
      if n ∈ (entry.2.get? p).getD [] then taking p n (index.owner? p n) entry.1 else [] := by
  rw [assignLists, ownerChanges_foldlM_assignList _ entry.2.distinct, Table.get?]

/-- The owner that a name has is the first of its chain of owners, and the attributes that list it
follow. -/
theorem ownerChanges_foldlM_assignLists {entries : List (String × NameLists)}
    (distinct : (entries.map Prod.fst).Nodup) (index : NameIndex)
    (hnew : ∀ owner, index.owner? p n = some owner → owner ∉ entries.map Prod.fst) :
    Eventful.ownerChanges (entries.foldlM assignLists index) p n =
      handedOn p n ((index.owner? p n).toList ++
        (entries.filter fun e => n ∈ (e.2.get? p).getD []).map Prod.fst) := by
  induction entries generalizing index with
  | nil =>
    cases index.owner? p n <;> rfl
  | cons e es ih =>
    obtain ⟨hhead, htail⟩ := List.nodup_cons.1 distinct
    have howner := owner?_assignLists index e p n
    rw [List.foldlM_cons, ownerChanges_bind, ownerChanges_assignLists]
    by_cases hn : n ∈ (e.2.get? p).getD []
    · rw [if_pos hn] at howner ⊢
      rw [ih htail, howner, List.filter_cons_of_pos (by simpa using hn), List.map_cons]
      · cases hprevious : index.owner? p n with
        | none => rfl
        | some previous =>
          have hother : previous ≠ e.1 := by
            rintro rfl
            exact hnew _ hprevious (by simp)
          rw [taking, if_neg hother]
          exact (handedOn_cons_cons p n previous e.1 _).symm
      · rintro owner howner'
        rw [howner, Option.some.injEq] at howner'
        exact howner' ▸ hhead
    · rw [if_neg hn] at howner ⊢
      rw [ih htail, howner, List.filter_cons_of_neg (by simpa using hn), List.nil_append]
      intro owner h
      rw [howner] at h
      exact fun hmem => hnew owner h (List.mem_cons_of_mem _ hmem)

/-- Filling the index hands a name on along the attributes that list it. -/
theorem ownerChanges_ofAttributes (t : AttributeTable) (profile external : String) :
    (ofAttributes t).ownerChanges profile external =
      handedOn profile external (t.listing profile external) := by
  have hempty : NameIndex.owner? Table.empty profile external = none := rfl
  rw [ofAttributes, ownerChanges_foldlM_assignLists t.distinct, hempty]
  · rfl
  · rw [hempty]
    exact fun _ h => absurd h (by simp)

end NameIndex

namespace Mapper

variable {c : Config}

theorem ownerChanges_build (valid : c.violation? = none) (profile external : String) :
    (build c).ownerChanges profile external =
      handedOn profile external (c.attributes.listing profile external) := by
  have hindex := NameIndex.ownerChanges_ofAttributes c.attributes profile external
  unfold build
  split
  next h => simp [valid] at h
  · rw [NameIndex.ownerChanges_bind, hindex]
    split
    · simp [Eventful.ownerChanges]
    · simp [Eventful.ownerChanges, Event.not_tellsOwner_mapperReady]

/-- The last attribute that lists a name is what the filter gives for it. -/
theorem filter_singleton (m : Mapper) (profile external : String) :
    (m.filter profile [external]).value =
      (m.config.attributes.listing profile external).getLast?.toList := by
  have howner : m.index.owner? profile external =
      (m.config.attributes.listing profile external).getLast? := by
    rw [owner?_index, AttributeTable.listing, List.getLast?_eq_head?_reverse, ← List.map_reverse,
      List.head?_map, ← List.filter_reverse, List.head?_filter]
  rw [filter_value, List.filterMap_cons, howner]
  cases (m.config.attributes.listing profile external).getLast? <;> rfl

/-- While a mapper is built from a configuration that keeps the rules, an external name is handed on
from each attribute that lists it to the next, with one event each time, and the last of them is what
the filter gives for the name. The configuration has a mapper unless one of its templates does not
compile. -/
theorem build_hands_names_on (valid : c.validate = .ok ()) (profile external : String) :
    (build c).ownerChanges profile external =
      List.zipWith (Event.nameTaken profile external) (c.attributes.listing profile external)
        (c.attributes.listing profile external).tail ∧
    ((build c).ownerChanges profile external).length =
      (c.attributes.listing profile external).length - 1 ∧
    (∀ m, (build c).value = .ok m → (m.filter profile [external]).value =
      (c.attributes.listing profile external).getLast?.toList) ∧
    ((∃ ds, c.compile = .ok ds) → ∃ m, (build c).value = .ok m) := by
  have hviolation : c.violation? = none := by
    unfold Config.validate at valid
    split at valid
    · assumption
    · cases valid
  have hchanges := ownerChanges_build hviolation profile external
  refine ⟨hchanges, ?_, ?_, exists_build hviolation⟩
  · rw [hchanges, handedOn, List.length_zipWith, List.length_tail]
    omega
  · intro m hbuild
    rw [filter_singleton, config_of_build hbuild]

end Mapper

/-- A directory in which three attributes list one name, two of them more than once or for another
profile as well. -/
def Config.shared : Config where
  attributes := .ofList
    [("login", .ofList [("saml", ["id", "uid", "id"])]),
      ("number", .ofList [("openid", ["id"]), ("saml", ["id"])]),
      ("uid", .ofList [("saml", ["uid", "id"])])]

namespace Mapper

theorem build_hands_names_on_shared :
    Config.shared.validate = .ok () ∧
      (build .shared).ownerChanges "saml" "id" =
        [.nameTaken "saml" "id" "login" "number", .nameTaken "saml" "id" "number" "uid"] ∧
      ((build .shared).ownerChanges "openid" "id").length = 0 ∧
      ∃ m, (build .shared).value = .ok m ∧ (m.filter "saml" ["id"]).value = ["uid"] := by
  have valid : Config.shared.validate = .ok () := rfl
  have hlisting : Config.shared.attributes.listing "saml" "id" = ["login", "number", "uid"] := rfl
  have hother : Config.shared.attributes.listing "openid" "id" = ["number"] := rfl
  obtain ⟨hchanges, -, hfilter, hbuild⟩ := build_hands_names_on valid "saml" "id"
  obtain ⟨-, hcount, -, -⟩ := build_hands_names_on valid "openid" "id"
  obtain ⟨m, hm⟩ := hbuild ⟨[], rfl⟩
  refine ⟨valid, ?_, ?_, m, hm, ?_⟩
  · rw [hchanges, hlisting]
    rfl
  · rw [hcount, hother]
    rfl
  · rw [hfilter m hm, hlisting]
    rfl

end Mapper

end AttributeProfiles
