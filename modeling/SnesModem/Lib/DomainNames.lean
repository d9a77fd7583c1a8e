import Mathlib.Data.UInt
import Mathlib.Data.List.Basic

/-!
# Domain names

The name of a host is a sequence of labels, and has two spellings.

* `dotted`: the labels with a dot between one and the next, as a user types them;
* `wireLabels`: each label behind its length, as a message has them; a zero octet ends them (`wireName`);
* `HostName`: labels of letters, digits and hyphens, none of them empty;
* `readName`: the labels of a name in a message, and what lies behind it.

A string is the dotted spelling of a host name if its parts between the dots are labels (`exists_dotted_iff`), and the
labels are then these parts (`HostName.splitOn_dotted`).  What `wireName` writes `readName` gives back
(`readName_wireName`).
-/

namespace SnesModem.Lib.DomainNames

/-- The dot. -/
abbrev separator : UInt8 := 0x2e

/-- The longest label that a message has room for. -/
abbrev maximumLabel : ℕ := 63

/-- A letter, a digit or a hyphen. -/
def hostCharacter (octet : UInt8) : Bool :=
  let character := Char.ofNat octet.toNat
  character.isAlphanum || character = '-'

/-- A label of a host name. -/
structure IsLabel (label : List UInt8) : Prop where
  nonempty : label ≠ []
  characters : ∀ octet ∈ label, hostCharacter octet = true

def dotted (labels : List (List UInt8)) : List UInt8 := [separator].intercalate labels

/-- A label behind its length. -/
def wireLabel (label : List UInt8) : List UInt8 := UInt8.ofNat label.length :: label

def wireLabels (labels : List (List UInt8)) : List UInt8 := labels.flatMap wireLabel

def wireName (labels : List (List UInt8)) : List UInt8 := wireLabels labels ++ [0]

structure HostName where
  labels : List (List UInt8)
  nonempty : labels ≠ []
  isLabel : ∀ label ∈ labels, IsLabel label

lemma separator_ne_of_character {octet : UInt8} (h : hostCharacter octet = true) : octet ≠ separator := by
  rintro rfl
  exact absurd h (by decide)

lemma IsLabel.separator_notMem {label : List UInt8} (h : IsLabel label) : separator ∉ label := fun hmem =>
  separator_ne_of_character (h.characters _ hmem) rfl

/-! ### The dotted spelling -/

section Dotted

@[simp] lemma dotted_singleton (label : List UInt8) : dotted [label] = label := List.intercalate_singleton

lemma dotted_cons_cons (label label' : List UInt8) (labels : List (List UInt8)) :
    dotted (label :: label' :: labels) = label ++ separator :: dotted (label' :: labels) := by
  unfold dotted
  rw [List.intercalate_cons_cons, List.append_assoc, List.singleton_append]

/-- An octet of the spelling is a dot or in a label. -/
lemma mem_dotted {labels : List (List UInt8)} {octet : UInt8} (h : octet ∈ dotted labels) :
    octet = separator ∨ ∃ label ∈ labels, octet ∈ label := by
  induction labels with
  | nil => cases h
  | cons label labels ih =>
    cases labels with
    | nil =>
      rw [dotted_singleton] at h
      exact .inr ⟨label, List.mem_singleton_self _, h⟩
    | cons label' labels =>
      rw [dotted_cons_cons, List.mem_append, List.mem_cons] at h
      rcases h with h | h | h
      · exact .inr ⟨label, List.mem_cons_self, h⟩
      · exact .inl h
      · rcases ih h with hdot | ⟨label'', hlabel, hmem⟩
        · exact .inl hdot
        · exact .inr ⟨label'', List.mem_cons_of_mem _ hlabel, hmem⟩

namespace HostName

/-- The name as a user types it. -/
def dotted (n : HostName) : List UInt8 := DomainNames.dotted n.labels

/-- **The labels of a host name are the parts between its dots.** -/
theorem splitOn_dotted (n : HostName) : n.dotted.splitOn separator = n.labels :=
  List.splitOn_intercalate separator (fun label hlabel => (n.isLabel label hlabel).separator_notMem) n.nonempty

end HostName

/-- **A string spells a host name if its parts between the dots are labels.** -/
theorem exists_dotted_iff {name : List UInt8} :
    (∃ n : HostName, n.dotted = name) ↔ ∀ label ∈ name.splitOn separator, IsLabel label := by
  constructor
  · rintro ⟨n, rfl⟩ label hlabel
    rw [n.splitOn_dotted] at hlabel
    exact n.isLabel label hlabel
  · intro h
    exact ⟨⟨name.splitOn separator, List.splitOn_ne_nil _ _, h⟩, List.intercalate_splitOn separator⟩

/-- An octet that is neither a dot nor a character of a label keeps a string from spelling a host name. -/
lemma hostCharacter_of_splitOn {name : List UInt8} (h : ∀ label ∈ name.splitOn separator, IsLabel label)
    {octet : UInt8} (hmem : octet ∈ name) (hdot : octet ≠ separator) : hostCharacter octet = true := by
  have hdotted : dotted (name.splitOn separator) = name := List.intercalate_splitOn separator
  rw [← hdotted] at hmem
  rcases mem_dotted hmem with heq | ⟨label, hlabel, hmem⟩
  · exact absurd heq hdot
  · exact (h label hlabel).characters octet hmem

end Dotted

/-! ### The spelling of a message -/

section Wire

@[simp] lemma wireLabels_nil : wireLabels [] = [] := rfl

@[simp] lemma wireLabels_cons (label : List UInt8) (labels : List (List UInt8)) :
    wireLabels (label :: labels) = UInt8.ofNat label.length :: (label ++ wireLabels labels) := rfl

/-- There is one octet more than the dotted spelling has: each dot is a length, and the first label has one, too. -/
theorem length_wireLabels {labels : List (List UInt8)} (h : labels ≠ []) :
    (wireLabels labels).length = (dotted labels).length + 1 := by
  induction labels with
  | nil => exact absurd rfl h
  | cons label labels ih =>
    cases labels with
    | nil => simp
    | cons label' labels =>
      have htail := ih (List.cons_ne_nil _ _)
      rw [wireLabels_cons, List.length_cons, List.length_append, htail, dotted_cons_cons, List.length_append,
        List.length_cons]

/-- A string and its parts as a message has them. -/
lemma length_wireName_splitOn (name : List UInt8) :
    (wireName (name.splitOn separator)).length = name.length + 2 := by
  have hdotted : dotted (name.splitOn separator) = name := List.intercalate_splitOn separator
  rw [wireName, List.length_append, length_wireLabels (List.splitOn_ne_nil _ _), hdotted, List.length_singleton]

/-- The labels up to the zero octet, and what lies behind it.  A length over `maximumLabel` is not one. -/
def readName (octets : List UInt8) : Option (List (List UInt8) × List UInt8) :=
  match octets with
  | [] => none
  | length :: rest =>
    if length = 0 then some ([], rest)
    else if maximumLabel < length.toNat ∨ rest.length < length.toNat then none
    else
      (readName (rest.drop length.toNat)).map fun (labels, behind) => (rest.take length.toNat :: labels, behind)
termination_by octets.length
decreasing_by
  rw [List.length_drop, List.length_cons]
  omega

/-- **The reader gives a written name back, whatever lies behind it.** -/
theorem readName_wireName {labels : List (List UInt8)}
    (h : ∀ label ∈ labels, label ≠ [] ∧ label.length ≤ maximumLabel) (behind : List UInt8) :
    readName (wireName labels ++ behind) = some (labels, behind) := by
  induction labels with
  | nil =>
    show readName (0 :: behind) = _
    rw [readName, if_pos rfl]
  | cons label labels ih =>
    obtain ⟨⟨hne, hle⟩, hlabels⟩ := List.forall_mem_cons.mp h
    have hpos := List.length_pos_of_ne_nil hne
    have hmaximum : maximumLabel = 63 := rfl
    have hlength : (UInt8.ofNat label.length).toNat = label.length := UInt8.toNat_ofNat_of_lt (by
      show _ < 256
      omega)
    have hnonzero : UInt8.ofNat label.length ≠ 0 := by
      intro hzero
      rw [hzero] at hlength
      exact absurd hlength.symm hpos.ne'
    have hsplit : wireName (label :: labels) ++ behind =
        UInt8.ofNat label.length :: (label ++ (wireName labels ++ behind)) := by
      simp [wireName]
    rw [hsplit, readName, if_neg hnonzero, hlength, if_neg (by rw [List.length_append]; omega),
      List.drop_left' rfl, List.take_left' rfl, ih hlabels]
    rfl

end Wire

end SnesModem.Lib.DomainNames
