import ClassOrder.Proofs.Plugin.ClassNames
import ClassOrder.Proofs.Sorter.Alone
import ClassOrder.Proofs.Writing

/-!
# Spacing classes follow the spacing scale

The padding and the margin derive from the spacing, and each key of theirs has seven classes:
for all sides, for the two axes and for the four single sides. The classes come pass by pass,
and in each pass key by key. They are all different, so that none is lost on the way into
the index: not where the plugin writes them into one object, and not where the index leaves
repetitions out. The margin also has the automatic length and the negated steps, whose keys
may be those of steps.
-/
namespace ClassOrder

open Selector

namespace Plugin

variable {base : String} {keys : List String}

/-- The bases of the spacing classes, pass by pass. -/
def spacingSides (base : String) : List (List String) :=
  [[base], [base ++ "y", base ++ "x"], [base ++ "t", base ++ "r", base ++ "b", base ++ "l"]]

/-- The bases and keys of the spacing classes. -/
def sideKeys (base : String) (keys : List String) : List (String × String) :=
  (spacingSides base).flatMap fun pass => keys.flatMap fun key => pass.map fun side => (side, key)

/-- The spacing classes for some keys: all sides, then the axes, then the single sides. -/
def spacingNames (base : String) (keys : List String) : List String :=
  keys.map (className base) ++
    keys.flatMap (fun key => [className (base ++ "y") key, className (base ++ "x") key]) ++
    keys.flatMap (fun key => [className (base ++ "t") key, className (base ++ "r") key,
      className (base ++ "b") key, className (base ++ "l") key])

/-- There are seven classes for each key. -/
theorem length_spacingNames (base : String) (keys : List String) :
    (spacingNames base keys).length = 7 * keys.length := by
  simp [spacingNames, List.length_flatMap]
  omega

/-- The names of the spacing classes are those of the pairs of a side and a key. -/
theorem spacingNames_eq_map (base : String) (keys : List String) :
    spacingNames base keys = (sideKeys base keys).map fun (side, key) => className side key := by
  have allSides : keys.map (className base) = keys.flatMap fun key => [className base key] :=
    List.map_eq_flatMap
  simp [spacingNames, sideKeys, spacingSides, allSides, List.map_flatMap]

/-- All sides of a base are bases. -/
theorem isBase_of_mem_spacingSides (isBase : IsBase base) :
    ∀ pass ∈ spacingSides base, ∀ side ∈ pass, IsBase side := by
  have letter (letters : String) (unsigned : '-' ∉ letters.toList) (whole : Whole letters) :
      IsBase (base ++ letters) := isBase.append unsigned whole
  simp only [spacingSides, List.forall_mem_cons]
  exact ⟨⟨isBase, by simp⟩, ⟨letter "y" (by decide) (by decide), letter "x" (by decide) (by decide),
    by simp⟩, ⟨letter "t" (by decide) (by decide), letter "r" (by decide) (by decide),
    letter "b" (by decide) (by decide), letter "l" (by decide) (by decide), by simp⟩, by simp⟩

/-- No side occurs twice. -/
theorem nodup_spacingSides (base : String) : (spacingSides base).flatten.Nodup := by
  have longer (letters : String) (nonempty : letters ≠ "") : base ≠ base ++ letters := by
    intro same
    have characters := congrArg String.toList same
    simp [nonempty] at characters
  simp [spacingSides, longer]

/-- No side is there twice with the same key. -/
theorem nodup_sideKeys (base : String) (once : keys.Nodup) : (sideKeys base keys).Nodup := by
  obtain ⟨onceInPass, apart⟩ := List.nodup_flatten.mp (nodup_spacingSides base)
  rw [sideKeys, List.nodup_flatMap]
  constructor
  · intro pass listed
    rw [List.nodup_flatMap]
    refine ⟨fun key _ => ?_, ?_⟩
    · exact (onceInPass pass listed).map fun left right same => (Prod.mk.inj same).1
    · refine once.imp fun {left right} different => ?_
      intro pair inLeft inRight
      obtain ⟨_, _, rfl⟩ := List.mem_map.mp inLeft
      obtain ⟨_, _, same⟩ := List.mem_map.mp inRight
      exact different (Prod.mk.inj same).2.symm
  · refine apart.imp fun {left right} disjoint => ?_
    intro pair inLeft inRight
    simp only [List.mem_flatMap, List.mem_map] at inLeft inRight
    obtain ⟨_, _, side, inPass, rfl⟩ := inLeft
    obtain ⟨_, _, _, inOther, same⟩ := inRight
    exact disjoint inPass ((Prod.mk.inj same).1 ▸ inOther)

/-- All spacing classes are different. -/
theorem nodup_spacingNames (isBase : IsBase base) (once : keys.Nodup) :
    (spacingNames base keys).Nodup := by
  have isBases : ∀ pair ∈ sideKeys base keys, IsBase pair.1 := by
    intro pair member
    simp only [sideKeys, List.mem_flatMap, List.mem_map] at member
    obtain ⟨pass, listed, _, _, side, inPass, rfl⟩ := member
    exact isBase_of_mem_spacingSides isBase pass listed side inPass
  rw [spacingNames_eq_map]
  refine List.Nodup.map_on ?_ (nodup_sideKeys base once)
  intro left leftMember right rightMember same
  obtain ⟨side, key⟩ := className_inj (isBases left leftMember) (isBases right rightMember) same
  exact Prod.ext side key

/-- The object of a spacing plugin has these classes and no other ones. -/
theorem classNames_spacingClasses (isBase : IsBase base) (property : String)
    {scale : Entries Setting} (once : (Entries.names scale).Nodup)
    (whole : ∀ key ∈ Entries.names scale, Whole key) :
    StyleObject.classNames (.mapping (spacingClasses base property scale)) =
      spacingNames base (Entries.names scale) := by
  let items := (spacingPasses base property).flatMap fun pass =>
    scale.flatMap fun entry => pass.map fun side => (side, entry)
  have named : items.map (fun item => className item.1.1 item.2.1) =
      spacingNames base (Entries.names scale) := by
    rw [spacingNames_eq_map]
    simp [items, spacingPasses, sideKeys, spacingSides, Entries.names, List.map_flatMap,
      List.flatMap_map]
  have written : spacingClasses base property scale = Entries.ofPairs (items.map fun item =>
      (classSelector (className item.1.1 item.2.1),
        .mapping (item.1.2.map fun property => (property, item.2.2)))) := by
    simp [spacingClasses, items, List.map_flatMap, propertiesOf, Function.comp_def]
  have wholeNames : ∀ item ∈ items, className item.1.1 item.2.1 ≠ "" ∧
      Whole (className item.1.1 item.2.1) := by
    intro item member
    simp only [items, List.mem_flatMap, List.mem_map] at member
    obtain ⟨pass, listed, entry, inScale, side, inPass, rfl⟩ := member
    have isSide : IsBase side.1 := by
      have listedSides : pass.map Prod.fst ∈ (spacingPasses base property).map (·.map Prod.fst) :=
        List.mem_map_of_mem listed
      exact isBase_of_mem_spacingSides isBase _ listedSides _ (List.mem_map_of_mem inPass)
    exact ⟨className_ne_empty isSide _,
      whole_className isSide (whole _ (List.mem_map_of_mem inScale))⟩
  rw [written, classNames_rules wholeNames (named ▸ nodup_spacingNames isBase once), named]

/-! ## The keys of the margin -/

/-- A spacing scale of texts, as entries of a theme. -/
def textEntries (scale : Entries String) : Entries Setting :=
  scale.map fun (name, text) => (name, .text text)

/-- Lengths as settings have the keys of the scale. -/
theorem names_textEntries (scale : Entries String) :
    Entries.names (textEntries scale) = Entries.names scale := by
  simp [textEntries, Entries.names]

/-- The keys of the margin: the automatic one, those of the spacing, and a minus before each whose
length is neither zero nor automatic nor negative. Each stands where it occurs first. -/
def marginKeys (scale : Entries String) : List String :=
  ("auto" :: (Entries.names scale ++
    (scale.filter fun (_, length) =>
      length != "0" && length != "auto" && length.toList.head? != some '-').map
        fun (key, _) => "-" ++ key)).eraseDups

/-- These are the names of the margin that derives from the spacing. -/
theorem names_margin (scale : Entries String) :
    Entries.names (Entries.merge (Entries.merge [("auto", .text "auto")] (textEntries scale))
      (Theme.negatedEntries (textEntries scale))) = marginKeys scale := by
  have single : (Entries.names ([("auto", .text "auto")] : Entries Setting)).Nodup :=
    List.pairwise_singleton _ _
  have negated : Entries.names (Theme.negatedEntries (textEntries scale)) =
      (scale.filter fun (_, length) =>
        length != "0" && length != "auto" && length.toList.head? != some '-').map
          fun (key, _) => "-" ++ key := by
    simp [Theme.negatedEntries, textEntries, Entries.names, List.filter_map, Function.comp_def,
      Theme.hasNegative, Value.display, bne]
  rw [Entries.names_merge (Entries.nodup_names_merge single _),
    Entries.names_merge single, negated, names_textEntries]
  exact eraseDups_append_congr (eraseDups_eraseDups _) rfl

/-- Nor is there a blank or a backslash in these. -/
theorem whole_marginKeys {scale : Entries String}
    (whole : ∀ key ∈ Entries.names scale, Whole key) : ∀ key ∈ marginKeys scale, Whole key := by
  intro key member
  simp only [marginKeys, List.mem_eraseDups, List.mem_cons, List.mem_append, List.mem_map] at member
  rcases member with rfl | step | ⟨entry, kept, rfl⟩
  · decide
  · exact whole key step
  · have minus : Whole "-" := by decide
    have inScale := whole entry.1 (List.mem_map_of_mem (List.mem_filter.mp kept).1)
    exact whole_append_iff.mpr ⟨minus, inScale⟩

end Plugin

namespace Sorter

variable {scale : Entries String} {plugin base property : String} {keys : List String}

/-- The plugins for spacing, with the base of their classes and their keys for a spacing scale. -/
inductive Spaced (scale : Entries String) : String → String → List String → Prop where
  | padding : Spaced scale "padding" "p" (Entries.names scale)
  | margin : Spaced scale "margin" "m" (Plugin.marginKeys scale)

/-- The index of a spacing plugin has its classes for what its scale then holds. -/
theorem create_spacedClasses {entries spaced : Entries Setting} (isBase : Plugin.IsBase base)
    (listed : (plugin, Plugin.spacedClasses plugin base property) ∈ Plugin.corePrograms)
    (holds : ∀ resolved,
      Config.resolve [Config.overriding "spacing" entries, Config.defaults] = .ok resolved →
        ∀ fallback, Config.themeAt resolved plugin fallback = .ok (.mapping spaced))
    (once : (Entries.names spaced).Nodup) (whole : ∀ key ∈ Entries.names spaced, Whole key) :
    ∃ sorter,
      (create (Config.overriding "spacing" entries) {} .builtin .builtin
        (some (.given (.list [.text plugin])))).outcome = .ok sorter ∧
      sorter.index.selectors = Plugin.spacingNames base (Entries.names spaced) := by
  obtain ⟨sorter, created, selectors⟩ :=
    create_overriding (Plugin.spacingClasses base property) listed (fun _ => rfl) (by decide) holds
  refine ⟨sorter, created, ?_⟩
  rw [selectors, Plugin.classNames_spacingClasses isBase property once whole]
  exact eraseDups_of_nodup (Plugin.nodup_spacingNames isBase once)

/-- Whatever the spacing scale, a sorter for the padding or the margin has exactly the seven
classes of each key in its index, pass by pass, and all of them are different. The plugin finds
the keys in the resolved theme and writes its classes pass by pass, and a class name gives away
the side and the key that it is made of. -/
theorem create_spacing_classes (scale : Entries String) (once : (Entries.names scale).Nodup)
    (whole : ∀ key ∈ Entries.names scale, Whole key) (spaced : Spaced scale plugin base keys) :
    ∃ sorter,
      (create (Config.overriding "spacing" (Plugin.textEntries scale)) {} .builtin .builtin
        (some (.given (.list [.text plugin])))).outcome = .ok sorter ∧
      sorter.index.selectors = Plugin.spacingNames base keys ∧
      (Plugin.spacingNames base keys).Nodup ∧ sorter.index.size = 7 * keys.length := by
  have sized (sorter : Sorter)
      (selectors : sorter.index.selectors = Plugin.spacingNames base keys) :
      sorter.index.size = 7 * keys.length := by
    rw [SelectorIndex.size, selectors, Plugin.length_spacingNames]
  cases spaced with
  | padding =>
    have isBase : Plugin.IsBase "p" := ⟨by decide, by decide, by decide⟩
    have listed : ("padding", Plugin.spacedClasses "padding" "p" "padding") ∈
        Plugin.corePrograms := by simp [Plugin.corePrograms]
    have named := Plugin.names_textEntries scale
    obtain ⟨sorter, created, selectors⟩ := create_spacedClasses isBase listed
      (fun _ => Config.themeAt_padding) (named ▸ once) (named ▸ whole)
    rw [named] at selectors
    exact ⟨sorter, created, selectors, Plugin.nodup_spacingNames isBase once,
      sized sorter selectors⟩
  | margin =>
    have isBase : Plugin.IsBase "m" := ⟨by decide, by decide, by decide⟩
    have listed : ("margin", Plugin.spacedClasses "margin" "m" "margin") ∈
        Plugin.corePrograms := by simp [Plugin.corePrograms]
    have named := Plugin.names_margin scale
    have keysOnce : (Plugin.marginKeys scale).Nodup := eraseDups_nodup _
    obtain ⟨sorter, created, selectors⟩ := create_spacedClasses isBase listed
      (fun _ => Config.themeAt_margin) (named ▸ keysOnce)
      (named ▸ Plugin.whole_marginKeys whole)
    rw [named] at selectors
    exact ⟨sorter, created, selectors, Plugin.nodup_spacingNames isBase keysOnce,
      sized sorter selectors⟩

/-- A scale with a default, an empty key, a step that looks like a negated one, and a zero. -/
def oddSpacing : Entries String :=
  [("default", "8px"), ("-1", "-4px"), ("1", "4px"), ("", "2px"), ("0", "0")]

/-- The margin has eight keys: the negation of the third step falls on the second. -/
theorem create_spacing_classes_odd_keys :
    (Entries.names oddSpacing).Nodup ∧ (∀ key ∈ Entries.names oddSpacing, Whole key) ∧
      Spaced oddSpacing "margin" "m" ["auto", "default", "-1", "1", "", "0", "-default", "-"] ∧
      ∃ sorter,
        (create (Config.overriding "spacing" (Plugin.textEntries oddSpacing)) {} .builtin .builtin
          (some (.given (.list [.text "margin"])))).outcome = .ok sorter ∧
        sorter.index.selectors.take 8 =
          ["m-auto", "m", "-m-1", "m-1", "m-", "m-0", "-m-default", "-m-"] ∧
        sorter.index.size = 56 := by
  have once : (Entries.names oddSpacing).Nodup := by decide
  have whole : ∀ key ∈ Entries.names oddSpacing, Whole key := by decide
  have keys : Plugin.marginKeys oddSpacing =
      ["auto", "default", "-1", "1", "", "0", "-default", "-"] := by decide
  have spaced : Spaced oddSpacing "margin" "m"
      ["auto", "default", "-1", "1", "", "0", "-default", "-"] := keys ▸ .margin
  obtain ⟨sorter, created, selectors, -, sized⟩ :=
    create_spacing_classes oddSpacing once whole spaced
  refine ⟨once, whole, spaced, sorter, created, ?_, sized⟩
  rw [selectors]
  decide

end Sorter

end ClassOrder
