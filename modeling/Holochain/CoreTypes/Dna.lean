import Holochain.CoreTypes.Entry

/-!
The entry-type lookups of a DNA (`core_types/src/dna/dna.rs`).

`get_zome_name_for_app_entry_type` and `get_entry_type_def` both assert that their argument
`t` is a valid app entry type name, then browse the zomes in key order and, in each zome, its
entry types, and return at the first entry type `App(t)`: the first returns the name of the
zome, the second the definition. `EntryType::has_valid_app_name` is not under `src/`: it is
the parameter `hasValidAppName`.

The two loops are one search read through two projections (`Dna.findAppEntryType_map`). What
that search finds is a zome of the DNA that declares `App(t)`, with the definition it declares,
and no zome before it in key order declares `App(t)` (`findAppEntryType_first`); it finds the
first such zome whenever there is one (`findAppEntryType_of_first`) and nothing otherwise. So for
a valid name both lookups answer from the first zome in key order that declares `App(t)`, one
with its name and one with its definition, or both answer `None` (`entry_type_lookups_agree`).

The lookups by zome name (`get_zome`, then an item of the zome) find exactly the zomes the DNA
holds (`Dna.getZome_eq_ok_iff`) and name what is missing when they fail
(`Dna.getWithZomeName_cases`); the zome that `get_zome_name_for_app_entry_type` names is found by
`get_zome` and declares the entry type (`app_entry_type_zome_resolves`). What a zome holds
beyond its entry types (`zome.rs` is not under `src/`) is read through accessors.
-/

namespace Holochain

/-! ## The lookups -/

/-- The nested loops of the two lookups: over the zomes in key order, the first zome whose
entry types hold `App(t)`, read by `f` from the zome's name and the definition of `App(t)`. -/
def Dna.findAppEntryType {β : Type} (dna : Dna) (t : String) (f : String → EntryTypeDef → β) :
    Option β :=
  dna.zomes.findSome? fun (zomeName, zome) => (zome.entryTypes.lookup (.app t)).map (f zomeName)

/-- `assert!(EntryType::has_valid_app_name(..))`, whose panic quotes the asserted expression. -/
def assertValidAppName (hasValidAppName : String → Bool) (expr name : String) :
    Except Panic Unit :=
  if hasValidAppName name then .ok () else .error ⟨"assertion failed: " ++ expr⟩

section

variable (hasValidAppName : String → Bool)

/-- `Dna::get_zome_name_for_app_entry_type`. -/
def Dna.getZomeNameForAppEntryType (dna : Dna) (appEntryType : String) :
    Except Panic (Option String) := do
  assertValidAppName hasValidAppName "EntryType::has_valid_app_name(&entry_type_name)"
    appEntryType
  pure (dna.findAppEntryType appEntryType fun zomeName _ => zomeName)

/-- `Dna::get_entry_type_def`. -/
def Dna.getEntryTypeDef (dna : Dna) (entryTypeName : String) :
    Except Panic (Option EntryTypeDef) := do
  assertValidAppName hasValidAppName "EntryType::has_valid_app_name(entry_type_name)"
    entryTypeName
  pure (dna.findAppEntryType entryTypeName fun _ entryTypeDef => entryTypeDef)

end

/-! ## One search, two projections -/

theorem Dna.findAppEntryType_map {β : Type} (dna : Dna) (t : String)
    (f : String → EntryTypeDef → β) :
    dna.findAppEntryType t f = (dna.findAppEntryType t Prod.mk).map fun p => f p.1 p.2 := by
  unfold Dna.findAppEntryType
  induction dna.zomes with
  | nil => rfl
  | cons zome zomes ih =>
    cases hl : zome.2.entryTypes.lookup (.app t) <;> simp [List.findSome?_cons, hl, ih]

theorem assertValidAppName_bind {hasValidAppName : String → Bool} {name : String}
    (h : hasValidAppName name = true) {α : Type} (expr : String) (x : Except Panic α) :
    (assertValidAppName hasValidAppName expr name >>= fun _ => x) = x := by
  simp [assertValidAppName, h]; rfl

/-! ## The first zome that declares the entry type -/

theorem lookup_eq_some_iff_mem :
    ∀ {zomes : List (String × Zome)} {z : String} {zome : Zome},
      (zomes.map Prod.fst).Pairwise (· < ·) → (zomes.lookup z = some zome ↔ (z, zome) ∈ zomes)
  | [], _, _, _ => by simp
  | (n, zn) :: zomes, z, zome, hs => by
    obtain ⟨hn, hs⟩ := List.pairwise_cons.mp hs
    have hnot : ∀ zome', (n, zome') ∉ zomes := fun zome' hm =>
      lt_irrefl n (hn n (List.mem_map_of_mem Prod.fst hm))
    by_cases hz : z = n
    · subst hz
      simp only [List.lookup_cons_self, Option.some.injEq, List.mem_cons, Prod.mk.injEq, true_and]
      exact ⟨fun h => .inl h.symm, fun h => h.elim Eq.symm fun hm => absurd hm (hnot zome)⟩
    · rw [List.lookup_cons, beq_false_of_ne hz, lookup_eq_some_iff_mem hs]
      simp [hz]

theorem findSome_app_first (t : String) :
    ∀ {zomes : List (String × Zome)} {z : String} {d : EntryTypeDef},
      (zomes.map Prod.fst).Pairwise (· < ·) →
      zomes.findSome? (fun (zomeName, zome) =>
        (zome.entryTypes.lookup (.app t)).map (Prod.mk zomeName)) = some (z, d) →
      (∃ zome, (z, zome) ∈ zomes ∧ zomes.lookup z = some zome ∧
        zome.entryTypes.lookup (.app t) = some d) ∧
      ∀ z' zome', (z', zome') ∈ zomes → (zome'.entryTypes.lookup (.app t)).isSome → z ≤ z'
  | [], _, _, _, h => nomatch h
  | (n, zome) :: zomes, z, d, hs, h => by
    obtain ⟨hn, hs⟩ := List.pairwise_cons.mp hs
    cases hl : zome.entryTypes.lookup (.app t) with
    | some d' =>
      obtain ⟨rfl, rfl⟩ : n = z ∧ d' = d := by simpa [List.findSome?_cons, hl] using h
      refine ⟨⟨zome, by simp, List.lookup_cons_self, hl⟩, fun z' zome' hm _ => ?_⟩
      rcases List.mem_cons.mp hm with he | hm
      · cases he; exact le_rfl
      · exact le_of_lt (hn z' (List.mem_map_of_mem Prod.fst hm))
    | none =>
      obtain ⟨⟨zome₀, hm, hz, hd⟩, hfirst⟩ :=
        findSome_app_first t hs (by simpa [List.findSome?_cons, hl] using h)
      have hne : (z == n) = false :=
        beq_false_of_ne (ne_of_gt (hn z (List.mem_map_of_mem Prod.fst hm)))
      refine ⟨⟨zome₀, List.mem_cons_of_mem _ hm, by rw [List.lookup_cons, hne]; exact hz, hd⟩,
        fun z' zome' hm' hdecl => ?_⟩
      rcases List.mem_cons.mp hm' with he | hm'
      · cases he; simp [hl] at hdecl
      · exact hfirst z' zome' hm' hdecl

theorem findAppEntryType_first {dna : Dna} {t z : String} {d : EntryTypeDef}
    (h : dna.findAppEntryType t Prod.mk = some (z, d)) :
    (∃ zome, dna.zomes.lookup z = some zome ∧ zome.entryTypes.lookup (.app t) = some d) ∧
      ∀ z' zome', (z', zome') ∈ dna.zomes → (zome'.entryTypes.lookup (.app t)).isSome →
        z ≤ z' :=
  have ⟨⟨zome, _, hz, hd⟩, hfirst⟩ := findSome_app_first t dna.zomes_sorted h
  ⟨⟨zome, hz, hd⟩, hfirst⟩

theorem findAppEntryType_eq_none_iff {dna : Dna} {t : String} :
    dna.findAppEntryType t Prod.mk = none ↔
      ∀ z zome, (z, zome) ∈ dna.zomes → zome.entryTypes.lookup (.app t) = none := by
  simp [Dna.findAppEntryType]

theorem findAppEntryType_of_first {dna : Dna} {t z : String} {zome : Zome} {d : EntryTypeDef}
    (hm : (z, zome) ∈ dna.zomes) (hd : zome.entryTypes.lookup (.app t) = some d)
    (hfirst : ∀ z' zome', (z', zome') ∈ dna.zomes → (zome'.entryTypes.lookup (.app t)).isSome →
      z ≤ z') :
    dna.findAppEntryType t Prod.mk = some (z, d) := by
  obtain ⟨⟨z₀, d₀⟩, hf⟩ : ∃ p, dna.findAppEntryType t Prod.mk = some p :=
    Option.isSome_iff_exists.mp (List.findSome?_isSome_iff.mpr ⟨(z, zome), hm, by simp [hd]⟩)
  obtain ⟨⟨zome₀, hl₀, hd₀⟩, hmin⟩ := findAppEntryType_first hf
  have hm₀ := (lookup_eq_some_iff_mem dna.zomes_sorted).mp hl₀
  obtain rfl : z₀ = z :=
    le_antisymm (hmin z zome hm (by simp [hd])) (hfirst z₀ zome₀ hm₀ (by simp [hd₀]))
  obtain rfl : zome₀ = zome :=
    Option.some.inj (hl₀.symm.trans ((lookup_eq_some_iff_mem dna.zomes_sorted).mpr hm))
  rw [hf, Option.some.inj (hd₀.symm.trans hd)]

/-! ## The two lookups agree -/

theorem lookups_panic_of_invalid_name {hasValidAppName : String → Bool} {t : String}
    (h : hasValidAppName t = false) (dna : Dna) :
    dna.getZomeNameForAppEntryType hasValidAppName t =
        .error ⟨"assertion failed: EntryType::has_valid_app_name(&entry_type_name)"⟩ ∧
      dna.getEntryTypeDef hasValidAppName t =
        .error ⟨"assertion failed: EntryType::has_valid_app_name(entry_type_name)"⟩ := by
  simp [Dna.getZomeNameForAppEntryType, Dna.getEntryTypeDef, assertValidAppName, h]

/-- Under a valid name, `get_entry_type_def` finds a definition exactly when
`get_zome_name_for_app_entry_type` finds a zome. Both answer from the first zome in key order
that declares `App(t)`, the one with the name and the other with that zome's definition, and
both answer `None` when no zome declares it. -/
theorem entry_type_lookups_agree (hasValidAppName : String → Bool) (dna : Dna) (t : String)
    (ht : hasValidAppName t = true) :
    ((∃ d, dna.getEntryTypeDef hasValidAppName t = .ok (some d)) ↔
      ∃ z, dna.getZomeNameForAppEntryType hasValidAppName t = .ok (some z)) ∧
    (∀ z zome d, (z, zome) ∈ dna.zomes → zome.entryTypes.lookup (.app t) = some d →
      (∀ z' zome', (z', zome') ∈ dna.zomes → (zome'.entryTypes.lookup (.app t)).isSome →
        z ≤ z') →
      dna.getZomeNameForAppEntryType hasValidAppName t = .ok (some z) ∧
        dna.getEntryTypeDef hasValidAppName t = .ok (some d)) ∧
    ((∀ z zome, (z, zome) ∈ dna.zomes → zome.entryTypes.lookup (.app t) = none) →
      dna.getZomeNameForAppEntryType hasValidAppName t = .ok none ∧
        dna.getEntryTypeDef hasValidAppName t = .ok none) := by
  simp only [Dna.getZomeNameForAppEntryType, Dna.getEntryTypeDef, assertValidAppName_bind ht,
    pure, Except.pure,
    Dna.findAppEntryType_map dna t (fun zomeName _ => zomeName),
    Dna.findAppEntryType_map dna t (fun _ entryTypeDef => entryTypeDef)]
  refine ⟨?_, fun z zome d hm hd hfirst => ?_, fun hnone => ?_⟩
  · cases dna.findAppEntryType t Prod.mk <;> simp
  · rw [findAppEntryType_of_first hm hd hfirst]; simp
  · rw [findAppEntryType_eq_none_iff.mpr hnone]; simp

theorem entry_type_lookups_agree_two_zomes :
    let dna : Dna := ⟨"app", "u",
      [("blog", ⟨"", [(.app "post", ⟨"a post"⟩)], by decide⟩),
        ("chat", ⟨"", [(.app "post", ⟨"a message"⟩)], by decide⟩)], by simp; decide⟩
    let valid : String → Bool := fun s => !s.isEmpty
    valid "post" = true ∧
      dna.getZomeNameForAppEntryType valid "post" = .ok (some "blog") ∧
      dna.getEntryTypeDef valid "post" = .ok (some ⟨"a post"⟩) ∧
      (((∃ d, dna.getEntryTypeDef valid "post" = .ok (some d)) ↔
        ∃ z, dna.getZomeNameForAppEntryType valid "post" = .ok (some z)) ∧
      (∀ z zome d, (z, zome) ∈ dna.zomes → zome.entryTypes.lookup (.app "post") = some d →
        (∀ z' zome', (z', zome') ∈ dna.zomes → (zome'.entryTypes.lookup (.app "post")).isSome →
          z ≤ z') →
        dna.getZomeNameForAppEntryType valid "post" = .ok (some z) ∧
          dna.getEntryTypeDef valid "post" = .ok (some d)) ∧
      ((∀ z zome, (z, zome) ∈ dna.zomes → zome.entryTypes.lookup (.app "post") = none) →
        dna.getZomeNameForAppEntryType valid "post" = .ok none ∧
          dna.getEntryTypeDef valid "post" = .ok none)) := by
  intro dna valid
  have h := entry_type_lookups_agree valid dna "post" rfl
  have hblog := h.2.1 "blog" _ ⟨"a post"⟩ (List.mem_cons_self _ _) rfl fun z' zome' hm _ => by
    rcases List.mem_cons.mp hm with he | hm
    · cases he; exact le_rfl
    · obtain ⟨⟩ | ⟨⟩ := List.mem_singleton.mp hm
      exact le_of_lt ((List.pairwise_cons.mp dna.zomes_sorted).1 _ (by simp))
  exact ⟨rfl, hblog.1, hblog.2, h⟩

/-! ## Zomes by name -/

/-- `Dna::new`, the `Default` DNA: no zomes, and the zero UUID. -/
def Dna.new : Dna := ⟨"", "00000000-0000-0000-0000-000000000000", [], .nil⟩

/-- `FnDeclaration`, with the field the lookups read. -/
structure FnDeclaration where
  name : String
  deriving DecidableEq, Repr

structure TraitFns where
  functions : List String
  deriving DecidableEq, Repr

/-- `DnaError`, with the variants the lookups raise. -/
inductive DnaError where
  | zomeNotFound (message : String)
  | traitNotFound (message : String)
  | zomeFunctionNotFound (message : String)
  deriving DecidableEq, Repr

/-- `Dna::get_zome`: the zome under its name. -/
def Dna.getZome (dna : Dna) (zomeName : String) : Except DnaError Zome :=
  match dna.zomes.lookup zomeName with
  | some zome => .ok zome
  | none => .error (.zomeNotFound ("Zome \x27" ++ zomeName ++ "\x27 not found"))

/-- The lookups of an item in a named zome: the zome by `get_zome`, then the item in it, and an
error naming the item and the zome when the item is missing. -/
def Dna.getWithZomeName {α : Type} (dna : Dna) (get : Zome → Option α)
    (notFound : String → DnaError) (what itemName zomeName : String) : Except DnaError α := do
  let zome ← dna.getZome zomeName
  match get zome with
  | some item => .ok item
  | none => .error (notFound
      (what ++ " \x27" ++ itemName ++ "\x27 not found in Zome \x27" ++ zomeName ++ "\x27"))

section

/- `zome.rs` is not under `src/`: what a zome holds beyond its entry types is read through the
accessors `traits` and `fnDeclarations`. -/
variable (traits : Zome → List (String × TraitFns)) (fnDeclarations : Zome → List FnDeclaration)

/-- `Dna::get_trait` (its `&self` is not read). -/
def getTrait (zome : Zome) (traitName : String) : Option TraitFns :=
  (traits zome).lookup traitName

/-- `Dna::get_function`: the first declaration with that name (its `&self` is not read). -/
def getFunction (zome : Zome) (functionName : String) : Option FnDeclaration :=
  (fnDeclarations zome).find? fun fnDecl => fnDecl.name == functionName

/-- `Dna::get_function_with_zome_name`. -/
def Dna.getFunctionWithZomeName (dna : Dna) (zomeName fnName : String) :
    Except DnaError FnDeclaration :=
  dna.getWithZomeName (fun zome => getFunction fnDeclarations zome fnName) .zomeFunctionNotFound
    "Zome function" fnName zomeName

/-- `Dna::get_trait_fns_with_zome_name`. -/
def Dna.getTraitFnsWithZomeName (dna : Dna) (zomeName traitName : String) :
    Except DnaError TraitFns :=
  dna.getWithZomeName (fun zome => getTrait traits zome traitName) .traitNotFound "Trait"
    traitName zomeName

end

/-- `Dna::get_wasm_from_zome_name`: the code of the named zome, read by the accessor `code`. -/
def Dna.getWasmFromZomeName {W : Type} (code : Zome → W) (dna : Dna) (zomeName : String) :
    Option W :=
  (dna.getZome zomeName).toOption.map code

/-- `Dna::get_required_bridges`: the bridges each zome requires (the accessor
`requiredBridges`, `Zome::get_required_bridges`), zome after zome in key order. -/
def Dna.getRequiredBridges {B : Type} (requiredBridges : Zome → List B) (dna : Dna) : List B :=
  dna.zomes.flatMap fun (_, zome) => requiredBridges zome

theorem Dna.getZome_eq_ok_iff {dna : Dna} {zomeName : String} {zome : Zome} :
    dna.getZome zomeName = .ok zome ↔ (zomeName, zome) ∈ dna.zomes := by
  rw [← lookup_eq_some_iff_mem dna.zomes_sorted, getZome]
  cases dna.zomes.lookup zomeName <;> simp

/-- What the lookups in a named zome answer: the item exactly when the named zome is in the DNA
and holds it; the `ZomeNotFound` error of `get_zome` when there is no such zome; otherwise their
own error, which names the item and the zome. -/
theorem Dna.getWithZomeName_cases {α : Type} (dna : Dna) (get : Zome → Option α)
    (notFound : String → DnaError) (what itemName zomeName : String) :
    (∀ item, dna.getWithZomeName get notFound what itemName zomeName = .ok item ↔
      ∃ zome, (zomeName, zome) ∈ dna.zomes ∧ get zome = some item) ∧
    ((∀ zome, (zomeName, zome) ∉ dna.zomes) →
      dna.getWithZomeName get notFound what itemName zomeName =
        .error (.zomeNotFound ("Zome \x27" ++ zomeName ++ "\x27 not found"))) ∧
    (∀ zome, (zomeName, zome) ∈ dna.zomes → get zome = none →
      dna.getWithZomeName get notFound what itemName zomeName = .error (notFound
        (what ++ " \x27" ++ itemName ++ "\x27 not found in Zome \x27" ++ zomeName ++ "\x27"))) := by
  have hmem : ∀ zome, dna.zomes.lookup zomeName = some zome ↔ (zomeName, zome) ∈ dna.zomes :=
    fun _ => lookup_eq_some_iff_mem dna.zomes_sorted
  simp only [getWithZomeName, getZome, ← hmem]
  cases dna.zomes.lookup zomeName with
  | none => simp [bind, Except.bind]
  | some zome =>
    cases hg : get zome <;> simp [bind, Except.bind, hg]

/-- For a valid name, the zome that `get_zome_name_for_app_entry_type` names is found by
`get_zome`, declares `App(t)`, and what it declares is what `get_entry_type_def` returns. -/
theorem app_entry_type_zome_resolves (hasValidAppName : String → Bool) (dna : Dna) (t : String)
    (ht : hasValidAppName t = true) {z : String}
    (hz : dna.getZomeNameForAppEntryType hasValidAppName t = .ok (some z)) :
    ∃ zome, dna.getZome z = .ok zome ∧ (zome.entryTypes.lookup (.app t)).isSome ∧
      dna.getEntryTypeDef hasValidAppName t = .ok (zome.entryTypes.lookup (.app t)) := by
  simp only [Dna.getZomeNameForAppEntryType, assertValidAppName_bind ht, pure, Except.pure,
    Except.ok.injEq, Dna.findAppEntryType_map dna t (fun zomeName _ => zomeName),
    Option.map_eq_some'] at hz
  obtain ⟨⟨z, d⟩, hf, rfl⟩ := hz
  obtain ⟨⟨zome, hl, hd⟩, -⟩ := findAppEntryType_first hf
  refine ⟨zome, by rw [Dna.getZome, hl], by rw [hd]; rfl, ?_⟩
  simp only [Dna.getEntryTypeDef, assertValidAppName_bind ht, pure, Except.pure, hd,
    Dna.findAppEntryType_map dna t (fun _ entryTypeDef => entryTypeDef), hf, Option.map_some']

theorem app_entry_type_zome_resolves_blog :
    let dna : Dna := ⟨"app", "u",
      [("blog", ⟨"", [(.app "post", ⟨"a post"⟩)], by decide⟩),
        ("chat", ⟨"", [(.app "post", ⟨"a message"⟩)], by decide⟩)], by simp; decide⟩
    let valid : String → Bool := fun s => !s.isEmpty
    valid "post" = true ∧ dna.getZomeNameForAppEntryType valid "post" = .ok (some "blog") ∧
      ∃ zome, dna.getZome "blog" = .ok zome ∧ (zome.entryTypes.lookup (.app "post")).isSome ∧
        dna.getEntryTypeDef valid "post" = .ok (zome.entryTypes.lookup (.app "post")) := by
  intro dna valid
  have hz : dna.getZomeNameForAppEntryType valid "post" = .ok (some "blog") := rfl
  exact ⟨rfl, hz, app_entry_type_zome_resolves valid dna "post" rfl hz⟩

end Holochain
