import AttributeProfiles.Proofs.Json.Layout
import AttributeProfiles.Proofs.Json.Letters
import AttributeProfiles.Proofs.Outcomes
import Mathlib.Data.List.DropRight

/-!
# Printed values read back

A printed value is read back as itself, in whatever layout it was printed. Numbers are left out: a
double is read up to rounding only. Two members of an object must not have one name, and the nesting
has a limit.

The reader goes through a tree, so the proof does too: the text of a value is read as the tree of
the value, and this tree has the value.
-/

namespace AttributeProfiles.Json

/-- A value without numbers, nested at most `depth` deep, of which no object has two members with
one name. -/
inductive Readable : Nat → Value → Prop where
  | null (depth : Nat) : Readable depth .null
  | boolean (depth : Nat) (b : Bool) : Readable depth (.boolean b)
  | text (depth : Nat) (s : String) : Readable depth (.text s)
  | list {depth : Nat} {items : List Value} :
      (∀ v ∈ items, Readable depth v) → Readable (depth + 1) (.list items)
  | object {depth : Nat} {members : List (String × Value)} :
      (members.map Prod.fst).Nodup → (∀ m ∈ members, Readable depth m.2) →
        Readable (depth + 1) (.object members)

namespace Readable

theorem mono {depth limit : Nat} {v : Value} (h : Readable depth v) (hle : depth ≤ limit) :
    Readable limit v := by
  induction h generalizing limit with
  | null => exact .null limit
  | boolean _ b => exact .boolean limit b
  | text _ s => exact .text limit s
  | list _ ih =>
    cases limit with
    | zero => omega
    | succ limit => exact .list fun v hv => ih v hv (Nat.le_of_succ_le_succ hle)
  | object distinct _ ih =>
    cases limit with
    | zero => omega
    | succ limit => exact .object distinct fun m hm => ih m hm (Nat.le_of_succ_le_succ hle)

theorem texts (depth : Nat) (values : List String) : Readable (depth + 1) (.texts values) := by
  refine .list fun v hv => ?_
  obtain ⟨s, -, rfl⟩ := List.mem_map.1 hv
  exact .text depth s

end Readable

namespace Value

mutual

/-- The tree as which the text of a value is read. -/
def tree : Value → Tree
  | .null => .null
  | .boolean b => .boolean b
  | .number n =>
    match Tree.numeral? n.toText.toList with
    | some (spelling, _) => .number spelling
    | none => .null
  | .text s => .text (s.toList.map letter)
  | .list items => .list (itemTrees items)
  | .object members => .object (memberTrees members)

def itemTrees : List Value → List Tree
  | [] => []
  | item :: items => tree item :: itemTrees items

def memberTrees : List (String × Value) → List (List Letter × Tree)
  | [] => []
  | (name, value) :: members => (name.toList.map letter, tree value) :: memberTrees members

end

theorem itemTrees_eq_map (items : List Value) : itemTrees items = items.map tree := by
  induction items with
  | nil => rfl
  | cons item items ih => rw [itemTrees, ih, List.map_cons]

theorem memberTrees_eq_map (members : List (String × Value)) :
    memberTrees members = members.map fun m => (m.1.toList.map letter, m.2.tree) := by
  induction members with
  | nil => rfl
  | cons m members ih =>
    obtain ⟨name, value⟩ := m
    rw [memberTrees, ih, List.map_cons]

end Value

namespace Tree

/-! ### Blanks -/

theorem skipBlanks_append {blanks : List Char} (h : ∀ c ∈ blanks, isBlank c = true)
    (cs : List Char) : skipBlanks (blanks ++ cs) = skipBlanks cs :=
  List.dropWhile_append_of_pos h

theorem skipBlanks_cons {c : Char} (h : isBlank c = false) (cs : List Char) :
    skipBlanks (c :: cs) = c :: cs :=
  List.dropWhile_cons_of_neg (by simp [h])

theorem skipBlanks_colon (cs : List Char) : skipBlanks (':' :: cs) = ':' :: cs :=
  skipBlanks_cons rfl cs

theorem skipBlanks_skipBlanks (cs : List Char) : skipBlanks (skipBlanks cs) = skipBlanks cs :=
  List.dropWhile_idempotent _ _

theorem tree?_skipBlanks (size : Nat) (cs : List Char) :
    tree? size (skipBlanks cs) = tree? size cs := by
  cases size with
  | zero => rfl
  | succ size => rw [tree?, tree?, skipBlanks_skipBlanks]

theorem items?_skipBlanks (size limit : Nat) (cs : List Char) :
    items? (tree? size) limit (skipBlanks cs) = items? (tree? size) limit cs := by
  cases limit with
  | zero => rfl
  | succ limit => rw [items?, items?, tree?_skipBlanks]

theorem members?_skipBlanks (size limit : Nat) (cs : List Char) :
    members? (tree? size) limit (skipBlanks cs) = members? (tree? size) limit cs := by
  cases limit with
  | zero => rfl
  | succ limit => rw [members?, members?, skipBlanks_skipBlanks]

theorem tree?_append {blanks : List Char} (h : ∀ c ∈ blanks, isBlank c = true) (size : Nat)
    (cs : List Char) : tree? size (blanks ++ cs) = tree? size cs := by
  rw [← tree?_skipBlanks, skipBlanks_append h, tree?_skipBlanks]

theorem items?_append {blanks : List Char} (h : ∀ c ∈ blanks, isBlank c = true) (size limit : Nat)
    (cs : List Char) : items? (tree? size) limit (blanks ++ cs) = items? (tree? size) limit cs := by
  rw [← items?_skipBlanks, skipBlanks_append h, items?_skipBlanks]

theorem members?_append {blanks : List Char} (h : ∀ c ∈ blanks, isBlank c = true)
    (size limit : Nat) (cs : List Char) :
    members? (tree? size) limit (blanks ++ cs) = members? (tree? size) limit cs := by
  rw [← members?_skipBlanks, skipBlanks_append h, members?_skipBlanks]

/-! ### Openings -/

theorem tree?_text (size : Nat) (cs : List Char) : tree? (size + 1) ('"' :: cs) =
    (letters? [] cs).map fun (letters, rest) => (.text letters, rest) := rfl

theorem tree?_list (size : Nat) {cs : List Char} (h : (skipBlanks cs).head? ≠ some ']') :
    tree? (size + 1) ('[' :: cs) =
      (items? (tree? size) size cs).map fun (items, rest) => (.list items, rest) := by
  rw [← items?_skipBlanks, tree?]
  simp only [skipBlanks_cons (c := '[') rfl]
  split
  next heq => simp [heq] at h
  · rfl

theorem tree?_object (size : Nat) {cs : List Char} (h : (skipBlanks cs).head? ≠ some '\x7d') :
    tree? (size + 1) ('\x7b' :: cs) =
      (members? (tree? size) size cs).map fun (members, rest) => (.object members, rest) := by
  rw [← members?_skipBlanks, tree?]
  simp only [skipBlanks_cons (c := '\x7b') rfl]
  split
  next heq => simp [heq] at h
  · rfl

end Tree

namespace Layout

variable (l : Layout)

theorem chars_list (level : Nat) (item : Value) (items : List Value) :
    l.chars level (.list (item :: items)) =
      '[' :: (l.line (level + 1) ++ (l.chars (level + 1) item ++ l.itemChars level items)) := by
  simp [chars]

theorem chars_object (level : Nat) (name : String) (value : Value)
    (members : List (String × Value)) :
    l.chars level (.object ((name, value) :: members)) =
      '\x7b' :: (l.line (level + 1) ++ (quoted name ++ (':' :: (l.gap ++
        (l.chars (level + 1) value ++ l.memberChars level members))))) := by
  simp [chars]

/-- The text of a value is read as the tree of the value, whatever follows it. -/
def ReadsBack (size level : Nat) (v : Value) : Prop :=
  ∀ rest, Tree.tree? size (l.chars level v ++ rest) = some (v.tree, rest)

theorem exists_chars_eq_cons {depth : Nat} {v : Value} (h : Readable depth v) (level : Nat) :
    ∃ c cs, l.chars level v = c :: cs ∧ Tree.isBlank c = false ∧ c ≠ ']' := by
  cases h with
  | null => exact ⟨'n', _, rfl, rfl, by decide⟩
  | boolean _ b => cases b with
    | true => exact ⟨'t', _, rfl, rfl, by decide⟩
    | false => exact ⟨'f', _, rfl, rfl, by decide⟩
  | text => exact ⟨'"', _, rfl, rfl, by decide⟩
  | @list _ items _ => cases items with
    | nil => exact ⟨'[', _, rfl, rfl, by decide⟩
    | cons item items =>
      rw [chars]
      exact ⟨'[', _, rfl, rfl, by decide⟩
  | @object _ members _ _ => cases members with
    | nil => exact ⟨'\x7b', _, rfl, rfl, by decide⟩
    | cons m members =>
      rw [chars]
      exact ⟨'\x7b', _, rfl, rfl, by decide⟩

theorem length_lt_itemChars (level : Nat) (items : List Value) :
    items.length < (l.itemChars level items).length := by
  induction items with
  | nil => simp [itemChars]
  | cons item items ih =>
    rw [itemChars]
    simp
    omega

theorem chars_length_lt_itemChars (level : Nat) {items : List Value} {v : Value} (hv : v ∈ items) :
    (l.chars (level + 1) v).length < (l.itemChars level items).length := by
  induction items with
  | nil => simp at hv
  | cons item items ih =>
    rw [itemChars]
    simp only [List.length_append, List.length_cons]
    rcases List.mem_cons.1 hv with rfl | hv
    · omega
    · have hlt := ih hv
      omega

theorem length_lt_memberChars (level : Nat) (members : List (String × Value)) :
    members.length < (l.memberChars level members).length := by
  induction members with
  | nil => simp [memberChars]
  | cons m members ih =>
    obtain ⟨name, value⟩ := m
    rw [memberChars]
    simp
    omega

theorem chars_length_lt_memberChars (level : Nat) {members : List (String × Value)}
    {m : String × Value} (hm : m ∈ members) :
    (l.chars (level + 1) m.2).length < (l.memberChars level members).length := by
  induction members with
  | nil => simp at hm
  | cons n members ih =>
    obtain ⟨name, value⟩ := n
    rw [memberChars]
    simp only [List.length_append, List.length_cons]
    rcases List.mem_cons.1 hm with rfl | hm
    · dsimp only
      omega
    · have hlt := ih hm
      omega

theorem length_lt_list (level : Nat) (items : List Value) :
    items.length < (l.chars level (.list items)).length := by
  cases items with
  | nil => simp [chars]
  | cons first others =>
    have hlt := l.length_lt_itemChars level others
    rw [chars_list]
    simp only [List.length_cons, List.length_append]
    omega

theorem chars_length_lt_list (level : Nat) {items : List Value} {v : Value} (hv : v ∈ items) :
    (l.chars (level + 1) v).length < (l.chars level (.list items)).length := by
  cases items with
  | nil => simp at hv
  | cons first others =>
    rw [chars_list]
    simp only [List.length_cons, List.length_append]
    rcases List.mem_cons.1 hv with rfl | hv
    · omega
    · have hlt := l.chars_length_lt_itemChars level hv
      omega

theorem length_lt_object (level : Nat) (members : List (String × Value)) :
    members.length < (l.chars level (.object members)).length := by
  cases members with
  | nil => simp [chars]
  | cons first others =>
    obtain ⟨name, value⟩ := first
    have hlt := l.length_lt_memberChars level others
    rw [chars_object]
    simp only [List.length_cons, List.length_append]
    omega

theorem chars_length_lt_object (level : Nat) {members : List (String × Value)}
    {m : String × Value} (hm : m ∈ members) :
    (l.chars (level + 1) m.2).length < (l.chars level (.object members)).length := by
  cases members with
  | nil => simp at hm
  | cons first others =>
    obtain ⟨name, value⟩ := first
    rw [chars_object]
    simp only [List.length_cons, List.length_append]
    rcases List.mem_cons.1 hm with rfl | hm
    · dsimp only
      omega
    · have hlt := l.chars_length_lt_memberChars level hm
      omega

theorem items?_chars {size level : Nat} (first : Value) (others : List Value) (rest : List Char)
    (hitems : ∀ v ∈ first :: others, l.ReadsBack size (level + 1) v) {limit : Nat}
    (hlimit : others.length < limit) :
    Tree.items? (Tree.tree? size) limit
        (l.chars (level + 1) first ++ (l.itemChars level others ++ rest)) =
      some (Value.itemTrees (first :: others), rest) := by
  induction others generalizing first limit with
  | nil =>
    obtain ⟨limit, rfl⟩ := Nat.exists_eq_add_of_lt hlimit
    have hfirst := hitems first List.mem_cons_self (l.itemChars level [] ++ rest)
    have hclose : Tree.skipBlanks (l.itemChars level [] ++ rest) = ']' :: rest := by
      rw [itemChars, List.append_assoc, Tree.skipBlanks_append (l.blank_line level)]
      rfl
    rw [Tree.items?, hfirst]
    simp only [Option.bind_eq_bind, Option.bind_some, hclose]
    rfl
  | cons second others ih =>
    obtain ⟨limit, rfl⟩ := Nat.exists_eq_add_of_lt hlimit
    have hfirst := hitems first List.mem_cons_self (l.itemChars level (second :: others) ++ rest)
    have hcomma : Tree.skipBlanks (l.itemChars level (second :: others) ++ rest) =
        ',' :: (l.line (level + 1) ++
          (l.chars (level + 1) second ++ (l.itemChars level others ++ rest))) := by
      rw [itemChars]
      simp only [List.append_assoc, List.cons_append]
      rfl
    have hlt : others.length < others.length + 1 + limit := by omega
    have hothers := ih second (fun v hv => hitems v (List.mem_cons_of_mem first hv)) hlt
    rw [List.length_cons, Tree.items?, hfirst]
    simp only [Option.bind_eq_bind, Option.bind_some, hcomma]
    rw [Tree.items?_append (l.blank_line (level + 1)), hothers]
    rfl

theorem members?_chars {size level : Nat} (name : String) (first : Value)
    (others : List (String × Value)) (rest : List Char)
    (hmembers : ∀ m ∈ (name, first) :: others, l.ReadsBack size (level + 1) m.2) {limit : Nat}
    (hlimit : others.length < limit) :
    Tree.members? (Tree.tree? size) limit (quoted name ++ (':' :: (l.gap ++
        (l.chars (level + 1) first ++ (l.memberChars level others ++ rest))))) =
      some (Value.memberTrees ((name, first) :: others), rest) := by
  induction others generalizing name first limit with
  | nil =>
    obtain ⟨limit, rfl⟩ := Nat.exists_eq_add_of_lt hlimit
    have hfirst := hmembers _ List.mem_cons_self (l.memberChars level [] ++ rest)
    have hclose : Tree.skipBlanks (l.memberChars level [] ++ rest) = '\x7d' :: rest := by
      rw [memberChars, List.append_assoc, Tree.skipBlanks_append (l.blank_line level)]
      rfl
    rw [quoted_append, Tree.members?, Tree.skipBlanks_cons rfl]
    simp only [Option.bind_eq_bind, Option.bind_some, letters?_quoted, Tree.skipBlanks_colon,
      Tree.tree?_append l.blank_gap, hfirst, hclose]
    rfl
  | cons second others ih =>
    obtain ⟨limit, rfl⟩ := Nat.exists_eq_add_of_lt hlimit
    obtain ⟨other, value⟩ := second
    have hfirst := hmembers _ List.mem_cons_self
      (l.memberChars level ((other, value) :: others) ++ rest)
    have hcomma : Tree.skipBlanks (l.memberChars level ((other, value) :: others) ++ rest) =
        ',' :: (l.line (level + 1) ++ (quoted other ++ (':' :: (l.gap ++
          (l.chars (level + 1) value ++ (l.memberChars level others ++ rest)))))) := by
      rw [memberChars]
      simp only [List.append_assoc, List.cons_append]
      rfl
    have hlt : others.length < others.length + 1 + limit := by omega
    have hothers := ih other value (fun m hm => hmembers m (List.mem_cons_of_mem _ hm)) hlt
    rw [← Tree.members?_append (l.blank_line (level + 1))] at hothers
    rw [quoted_append, List.length_cons, Tree.members?, Tree.skipBlanks_cons rfl]
    simp only [Option.bind_eq_bind, Option.bind_some, letters?_quoted, Tree.skipBlanks_colon,
      Tree.tree?_append l.blank_gap, hfirst, hcomma, hothers]
    rfl

theorem readsBack_list {depth size level : Nat} {items : List Value}
    (readable : ∀ v ∈ items, Readable depth v)
    (hitems : ∀ v ∈ items, l.ReadsBack size (level + 1) v) (hsize : items.length ≤ size) :
    l.ReadsBack (size + 1) level (.list items) := by
  intro rest
  cases items with
  | nil => rfl
  | cons first others =>
    obtain ⟨c, cs, hchars, hblank, hc⟩ :=
      l.exists_chars_eq_cons (readable first List.mem_cons_self) (level + 1)
    have hopen : (Tree.skipBlanks (l.line (level + 1) ++
        (l.chars (level + 1) first ++ (l.itemChars level others ++ rest)))).head? ≠ some ']' := by
      rw [Tree.skipBlanks_append (l.blank_line (level + 1)), hchars, List.cons_append,
        Tree.skipBlanks_cons hblank]
      simpa using hc
    rw [chars_list]
    simp only [List.cons_append, List.append_assoc]
    rw [Tree.tree?_list size hopen, Tree.items?_append (l.blank_line (level + 1)),
      l.items?_chars first others rest hitems hsize]
    rfl

theorem readsBack_object {size level : Nat} {members : List (String × Value)}
    (hmembers : ∀ m ∈ members, l.ReadsBack size (level + 1) m.2) (hsize : members.length ≤ size) :
    l.ReadsBack (size + 1) level (.object members) := by
  intro rest
  cases members with
  | nil => rfl
  | cons first others =>
    obtain ⟨name, value⟩ := first
    have hopen : (Tree.skipBlanks (l.line (level + 1) ++ (quoted name ++ (':' :: (l.gap ++
        (l.chars (level + 1) value ++ (l.memberChars level others ++ rest))))))).head? ≠
          some '\x7d' := by
      rw [Tree.skipBlanks_append (l.blank_line (level + 1)), quoted_append,
        Tree.skipBlanks_cons rfl, List.head?_cons]
      decide
    rw [chars_object]
    simp only [List.cons_append, List.append_assoc]
    rw [Tree.tree?_object size hopen, Tree.members?_append (l.blank_line (level + 1)),
      l.members?_chars name value others rest hmembers hsize]
    rfl

/-- The text of a value is read as the tree of the value. The size is that of the whole text, and
every item and member is shorter. -/
theorem readsBack {depth : Nat} {v : Value} (h : Readable depth v) {size level : Nat}
    (hsize : (l.chars level v).length < size) : l.ReadsBack size level v := by
  induction h generalizing size level with
  | null =>
    intro rest
    cases size with
    | zero => simp at hsize
    | succ size => rfl
  | boolean _ b =>
    intro rest
    cases size with
    | zero => simp at hsize
    | succ size => cases b <;> rfl
  | text _ s =>
    intro rest
    cases size with
    | zero => simp at hsize
    | succ size =>
      rw [chars, quoted_append, Tree.tree?_text, letters?_quoted]
      rfl
  | @list depth items hitems ih =>
    cases size with
    | zero => simp at hsize
    | succ size =>
      have hlength := l.length_lt_list level items
      refine l.readsBack_list hitems (fun v hv => ih v hv ?_) (by omega)
      have hlt := l.chars_length_lt_list level hv
      omega
  | @object depth members _ _ ih =>
    cases size with
    | zero => simp at hsize
    | succ size =>
      have hlength := l.length_lt_object level members
      refine l.readsBack_object (fun m hm => ih m hm ?_) (by omega)
      have hlt := l.chars_length_lt_object level hm
      omega

theorem read?_chars {depth : Nat} {v : Value} (h : Readable depth v) (blanks : List Char)
    (hblanks : ∀ c ∈ blanks, Tree.isBlank c = true) :
    Tree.read? (String.ofList (l.chars 0 v ++ blanks)) = some v.tree := by
  have hsize : (l.chars 0 v).length < (l.chars 0 v ++ blanks).length + 1 := by
    rw [List.length_append]
    omega
  have hrest : Tree.skipBlanks blanks = [] := by
    rw [← List.append_nil blanks, Tree.skipBlanks_append hblanks]
    rfl
  unfold Tree.read?
  rw [String.toList_ofList]
  dsimp only
  rw [l.readsBack h hsize blanks]
  simp [hrest]

end Layout

theorem Readable.value?_tree {depth : Nat} {v : Value} (h : Readable depth v) :
    v.tree.value? depth = some v := by
  induction h with
  | null depth => cases depth <;> rfl
  | boolean depth b => cases depth <;> rfl
  | text depth s =>
    cases depth <;> simp [Value.tree, Tree.value?]
  | @list depth items _ ih =>
    rw [Value.tree, Tree.value?, Value.itemTrees_eq_map, Outcome.mapM_map_eq_some ih]
    rfl
  | @object depth members distinct _ ih =>
    have hread : ∀ m ∈ members, (do
        some (← textOfLetters? (m.1.toList.map letter), ← m.2.tree.value? depth)) = some m := by
      intro m hm
      simp [ih m hm]
    rw [Value.tree, Tree.value?, Value.memberTrees_eq_map, Outcome.mapM_map_eq_some hread]
    simp [Table.entries_ofList distinct]

namespace Value

theorem read?_tree_compact {depth : Nat} {v : Value} (h : Readable depth v) :
    Tree.read? v.compact = some v.tree := by
  have hread := Layout.compact.read?_chars h [] (by simp)
  rwa [List.append_nil, Layout.chars_compact] at hread

/-- The laid out form of a value on its lines reads back as the value. -/
theorem read?_laidOut {v : Value} (h : Readable maxDepth v) : read? (v.laidOut ++ "\n") = some v := by
  have hread := Layout.indented.read?_chars h ['\n'] (by simp [Tree.isBlank])
  rw [Layout.chars_indented, String.ofList_append] at hread
  have htree : Tree.read? (v.laidOut ++ "\n") = some v.tree := hread
  rw [read?, htree, Option.bind_some, h.value?_tree]

end Value

end AttributeProfiles.Json
