import BrowserBridge.Proofs.Wire.Struct

/-!
How much is built of the bytes that are read.  Every value of a tree stands for a byte of its
encoding at least, and a content for all of its bytes.  So no count and no length, however deep
inside, makes a reader build more than it takes.
-/

namespace BrowserBridge.Wire

mutual

/-- The values of a tree: itself and all those inside it, the keys of maps among them. -/
def Tree.values : Tree → List Tree
  | .struct fields => .struct fields :: valuesOfFields fields
  | .map entries => .map entries :: valuesOfEntries entries
  | .set elements => .set elements :: valuesOfEach elements
  | .list elements => .list elements :: valuesOfEach elements
  | scalar => [scalar]

/-- The values of a sequence. -/
def valuesOfEach : List Tree → List Tree
  | [] => []
  | head :: tail => head.values ++ valuesOfEach tail

/-- The values of the keys and the values of a map. -/
def valuesOfEntries : List (Tree × Tree) → List Tree
  | [] => []
  | (key, value) :: tail => key.values ++ value.values ++ valuesOfEntries tail

/-- The values of the fields of a struct. -/
def valuesOfFields : List (Int16 × Tree) → List Tree
  | [] => []
  | (_, value) :: tail => value.values ++ valuesOfFields tail

end

/-- The bytes of a value that are its content, without those of the values inside it. -/
def Tree.content : Tree → Bytes
  | .binary content => content
  | _ => []

/-- How many values there are, together with the length of all their contents. -/
def weight (values : List Tree) : Nat := values.length + (values.flatMap Tree.content).length

@[simp] theorem weight_nil : weight [] = 0 := rfl

@[simp] theorem weight_cons (value : Tree) (rest : List Tree) :
    weight (value :: rest) = 1 + value.content.length + weight rest := by
  simp only [weight, List.length_cons, List.flatMap_cons, List.length_append]
  omega

@[simp] theorem weight_append (front back : List Tree) :
    weight (front ++ back) = weight front + weight back := by
  simp only [weight, List.length_append, List.flatMap_append]
  omega

mutual

/-- A value and all those inside it weigh no more than the bytes of their encoding. -/
theorem Encodes.weight_le {tag : Tag} {value : Tree} {bytes : Bytes}
    (h : Encodes tag value bytes) : weight value.values ≤ bytes.length := by
  cases h with
  | struct hfields =>
      have hinside := hfields.weight_le
      simp only [Tree.values, Tree.content, weight_cons, List.length_append, List.length_nil,
        List.length_singleton]
      omega
  | map keyTag valueTag hlength hentries =>
      have hinside := hentries.weight_le
      simp only [Tree.values, Tree.content, weight_cons, List.length_append, List.length_nil,
        List.length_cons]
      omega
  | set elementTag hlength helements | list elementTag hlength helements =>
      have hinside := helements.weight_le
      simp only [Tree.values, Tree.content, weight_cons, List.length_append, List.length_nil,
        List.length_cons]
      omega
  | binary hlength =>
      simp only [Tree.values, Tree.content, weight_cons, weight_nil, List.length_append,
        length_bytesOf]
      omega
  | _ => simp [Tree.values, Tree.content]

theorem EncodesEach.weight_le {tag : Tag} {elements : List Tree} {bytes : Bytes} :
    EncodesEach tag elements bytes → weight (valuesOfEach elements) ≤ bytes.length
  | .nil => Nat.le_refl 0
  | .cons hhead htail => by
      have hfront := hhead.weight_le
      have hback := htail.weight_le
      simp only [valuesOfEach, weight_append, List.length_append]
      omega

theorem EncodesEntries.weight_le {keyTag valueTag : Tag} {entries : List (Tree × Tree)}
    {bytes : Bytes} : EncodesEntries keyTag valueTag entries bytes →
      weight (valuesOfEntries entries) ≤ bytes.length
  | .nil => Nat.le_refl 0
  | .cons hkey hvalue htail => by
      have hfront := hkey.weight_le
      have hmiddle := hvalue.weight_le
      have hback := htail.weight_le
      simp only [valuesOfEntries, weight_append, List.length_append]
      omega

theorem EncodesFields.weight_le {fields : Fields} {bytes : Bytes} :
    EncodesFields fields bytes → weight (valuesOfFields fields) ≤ bytes.length
  | .nil => Nat.le_refl 0
  | .cons id hvalue htail => by
      have hmiddle := hvalue.weight_le
      have hback := htail.weight_le
      simp only [valuesOfFields, weight_append, List.length_append]
      omega

end

/-- What is read as a struct takes bytes off the front, and at least one for every value of the
tree, keys of maps included, and one for every byte of its contents. -/
theorem struct_outweighed (reader : Reader) {found : Fields} {after : Reader}
    (hstruct : struct reader = .ok found after) :
    let values := (Tree.struct found).values
    ∃ taken, reader.rest = taken ++ after.rest ∧
      values.length + (values.flatMap Tree.content).length ≤ taken.length := by
  intro values
  obtain ⟨taken, ⟨hencodes, -⟩, htakes⟩ := (exact_struct reader found after).mp hstruct
  exact ⟨taken, htakes.rest, hencodes.weight_le⟩

/-- A list of truth values inside a map, of which every value takes a single byte, and a text. -/
theorem struct_outweighed_nested_list :
    let bytes : Bytes := [13, 0, 1, 3, 15, 0, 0, 0, 1, 7, 2, 0, 0, 0, 2, 1, 0] ++
      [11, 0, 2, 0, 0, 0, 2, 104, 105] ++ [0]
    let reader : Reader := ⟨bytes ++ [9], .silent, 13, 64⟩
    let found : Fields :=
      [(1, .map [(.byte 7, .list [.bool true, .bool false])]), (2, .binary [104, 105])]
    struct reader = .ok found ⟨[9], .silent, 40, 64⟩ ∧
      ∃ taken, reader.rest = taken ++ [9] ∧ 7 + 2 ≤ taken.length := by
  intro bytes reader found
  have hlist : Encodes .list (.list [.bool true, .bool false]) [2, 0, 0, 0, 2, 1, 0] :=
    .list .bool (by decide) (.cons (.bool 1) (.cons (.bool 0) .nil))
  have hmap : Encodes .map (.map [(.byte 7, .list [.bool true, .bool false])])
      [3, 15, 0, 0, 0, 1, 7, 2, 0, 0, 0, 2, 1, 0] :=
    .map .byte .list (by decide) (.cons (.byte 7) hlist .nil)
  have htext : Encodes .binary (.binary [104, 105]) [0, 0, 0, 2, 104, 105] :=
    .binary (by decide)
  have hstruct : struct reader = .ok found ⟨[9], .silent, 40, 64⟩ :=
    (exact_struct _ _ _).mpr ⟨bytes, ⟨.struct (.cons 1 hmap (.cons 2 htext .nil)), by decide⟩,
      rfl, by decide, rfl, rfl, rfl⟩
  obtain ⟨taken, hrest, hweight⟩ := struct_outweighed reader hstruct
  exact ⟨hstruct, taken, hrest, hweight⟩

end BrowserBridge.Wire
