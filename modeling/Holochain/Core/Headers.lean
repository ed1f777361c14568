import Holochain.Core.State

/-!
`State::get_headers` against the spec's merge rule (§4.1): "local chain headers first, then
DHT-held headers not already present, deduplicated by address".

The meta-store query of `get_headers` fixes the entity and the attribute, and
`IndexFilter::LatestByAttribute` keeps one row per (entity, value), so every header address
recorded for the entry comes back once (`mem_fetchEavi_headerQuery`,
`nodup_fetchEavi_headerQuery`). Over a DHT store that holds each content under its address, an
answer is the chain's headers for the entry in chain order, then exactly the DHT-held headers
recorded for it that the chain does not hold, and it repeats no address unless the chain does
(`getHeaders_merge`).
-/

namespace Holochain

/-! ## What `LatestByAttribute` keeps -/

theorem mem_of_mem_latestByAttribute {r : Eavi} :
    ∀ {rs : List Eavi}, r ∈ latestByAttribute rs → r ∈ rs
  | [], h => by simp [latestByAttribute] at h
  | x :: xs, h => by
    rw [latestByAttribute] at h
    split_ifs at h
    · exact List.mem_cons_of_mem _ (mem_of_mem_latestByAttribute h)
    · rcases List.mem_cons.mp h with rfl | h
      · exact List.mem_cons_self _ _
      · exact List.mem_cons_of_mem _ (mem_of_mem_latestByAttribute h)

theorem exists_mem_latestByAttribute {r : Eavi} :
    ∀ {rs : List Eavi}, r ∈ rs →
      ∃ r' ∈ latestByAttribute rs, r.entity = r'.entity ∧ r.value = r'.value
  | x :: xs, h => by
    rw [latestByAttribute]
    split_ifs with hx
    · rcases List.mem_cons.mp h with rfl | h
      · obtain ⟨y, hy, hxy⟩ := List.any_eq_true.mp hx
        obtain ⟨r', hr', he, hv⟩ := exists_mem_latestByAttribute hy
        simp only [Eavi.sameEntityValue_eq_true] at hxy
        exact ⟨r', hr', hxy.1.trans he, hxy.2.trans hv⟩
      · exact exists_mem_latestByAttribute h
    · rcases List.mem_cons.mp h with rfl | h
      · exact ⟨r, List.mem_cons_self _ _, rfl, rfl⟩
      · obtain ⟨r', hr', hrr'⟩ := exists_mem_latestByAttribute h
        exact ⟨r', List.mem_cons_of_mem _ hr', hrr'⟩

theorem pairwise_latestByAttribute :
    ∀ rs : List Eavi, (latestByAttribute rs).Pairwise fun r r' => r.sameEntityValue r' = false
  | [] => by simp [latestByAttribute]
  | x :: xs => by
    rw [latestByAttribute]
    split_ifs with hx
    · exact pairwise_latestByAttribute xs
    · refine List.pairwise_cons.mpr ⟨fun r' hr' => ?_, pairwise_latestByAttribute xs⟩
      simp only [Bool.not_eq_true, List.any_eq_false] at hx
      simpa using hx r' (mem_of_mem_latestByAttribute hr')

/-! ## The header rows of an entry -/

theorem headerQuery_row {eav : Eav} {entryAddress : Address} {r : Eavi}
    (hr : r ∈ eav.fetchEavi (headerQuery entryAddress)) :
    r ∈ eav ∧ r.entity = entryAddress ∧ r.attr = .entryHeader := by
  have := List.mem_filter.mp (mem_of_mem_latestByAttribute hr)
  simp only [headerQuery, EaviQuery.admits, Option.all_some, Option.all_none, Bool.and_true,
    Bool.and_eq_true, decide_eq_true_eq] at this
  exact ⟨this.1, this.2.1.symm, this.2.2.symm⟩

theorem mem_fetchEavi_headerQuery {eav : Eav} {entryAddress v : Address} :
    v ∈ (eav.fetchEavi (headerQuery entryAddress)).map (·.value) ↔
      ⟨entryAddress, .entryHeader, v⟩ ∈ eav := by
  rw [List.mem_map]
  constructor
  · rintro ⟨r, hr, rfl⟩
    obtain ⟨hm, rfl, ha⟩ := headerQuery_row hr
    rw [← ha]
    exact hm
  · intro hr
    have hf : (⟨entryAddress, .entryHeader, v⟩ : Eavi) ∈
        eav.filter (headerQuery entryAddress).admits :=
      List.mem_filter.mpr ⟨hr, by simp [headerQuery, EaviQuery.admits]⟩
    obtain ⟨r', hr', -, hv⟩ := exists_mem_latestByAttribute hf
    exact ⟨r', hr', hv.symm⟩

theorem nodup_fetchEavi_headerQuery (eav : Eav) (entryAddress : Address) :
    ((eav.fetchEavi (headerQuery entryAddress)).map (·.value)).Nodup := by
  refine List.pairwise_map.mpr ((pairwise_latestByAttribute _).imp_of_mem ?_)
  intro r r' hr hr' hne hv
  simp [Eavi.sameEntityValue, (headerQuery_row hr).2.1, (headerQuery_row hr').2.1, hv] at hne

/-! ## The DHT part of an answer -/

theorem mem_dhtHeaderContents {dhtCas : Cas} {metaStore : Eav} {exclude : List Address}
    {entryAddress : Address} {c : Content} :
    c ∈ dhtHeaderContents dhtCas metaStore exclude entryAddress ↔
      ∃ v, ⟨entryAddress, .entryHeader, v⟩ ∈ metaStore ∧ v ∉ exclude ∧ dhtCas.fetch v = some c := by
  simp only [dhtHeaderContents, List.mem_filterMap, List.mem_filter, mem_fetchEavi_headerQuery]
  simp [List.contains_eq_any_beq, and_assoc]

theorem map_filterMap_fetch_sublist {hash : Content → Address} {cas : Cas}
    (hcas : ∀ a c, cas.fetch a = some c → hash c = a) :
    ∀ vs : List Address, ((vs.filterMap cas.fetch).map hash).Sublist vs
  | [] => .slnil
  | v :: vs => by
    rw [List.filterMap_cons]
    cases hv : cas.fetch v with
    | none => exact (map_filterMap_fetch_sublist hcas vs).cons v
    | some c => rw [List.map_cons, hcas v c hv]; exact (map_filterMap_fetch_sublist hcas vs).cons₂ v

theorem mapM_tryFromContent {cs : List Content} {hs : List ChainHeader}
    (h : cs.mapM ChainHeader.tryFromContent = .ok hs) : cs = hs.map .header := by
  induction cs generalizing hs with
  | nil => cases h; rfl
  | cons c cs ih =>
    cases c with
    | entry e => cases h
    | header x =>
      simp only [List.mapM_cons, ChainHeader.tryFromContent] at h
      obtain ⟨_, ⟨⟩, h⟩ := Except.bind_eq_ok.mp h
      obtain ⟨hs', hr, ⟨⟩⟩ := Except.bind_eq_ok.mp h
      simp [ih hr]

/-! ## The merge rule -/

section

variable {hash : Content → Address}

/-- Over a DHT content store that holds each content under its address, an answer of
`get_headers` is the chain's headers for the entry, in chain order, followed by exactly the
headers the DHT holds under an address the meta store records for the entry and the chain does
not hold; and it repeats no address unless the chain's part does. -/
theorem getHeaders_merge (s : State) (w : World) (entryAddress : Address) {hs : List ChainHeader}
    (hcas : ∀ a c, (w.cas s.dht.contentStorage).fetch a = some c → hash c = a)
    (h : s.getHeaders hash w entryAddress = .ok hs) :
    ∃ dhtHeaders, hs = (s.agent.iterChain w).filter (·.entryAddress = entryAddress) ++ dhtHeaders ∧
      (∀ hd, hd ∈ dhtHeaders ↔
        ⟨entryAddress, .entryHeader, hd.address hash⟩ ∈ w.eav s.dht.metaStorage ∧
          (w.cas s.dht.contentStorage).fetch (hd.address hash) = some (.header hd) ∧
          hd.address hash ∉
            ((s.agent.iterChain w).filter (·.entryAddress = entryAddress)).map (·.address hash)) ∧
      ((hs.map (·.address hash)).Nodup ↔
        (((s.agent.iterChain w).filter (·.entryAddress = entryAddress)).map
          (·.address hash)).Nodup) := by
  obtain ⟨dhs, hd, rfl⟩ := headersFor_ok h
  have hc := mapM_tryFromContent hd
  have hmem : ∀ x, x ∈ dhs ↔
      ⟨entryAddress, .entryHeader, x.address hash⟩ ∈ w.eav s.dht.metaStorage ∧
        (w.cas s.dht.contentStorage).fetch (x.address hash) = some (.header x) ∧
        x.address hash ∉ (chainHeadersFor (w.cas s.agent.chainStore.contentStorage)
          s.agent.topChainHeader entryAddress).map (·.address hash) := fun x => by
    rw [← List.mem_map_of_injective fun _ _ => Content.header.inj, ← hc,
      mem_dhtHeaderContents]
    refine ⟨fun ⟨v, hv, hex, hf⟩ => ?_, fun ⟨hv, hf, hex⟩ => ⟨_, hv, hex, hf⟩⟩
    obtain rfl : hash (.header x) = v := hcas v _ hf
    exact ⟨hv, hf, hex⟩
  have hsub : (dhs.map (·.address hash)).Sublist
      (((w.eav s.dht.metaStorage).fetchEavi (headerQuery entryAddress)).map (·.value)) := by
    rw [show dhs.map (·.address hash) = (dhs.map Content.header).map hash from
      (List.map_map ..).symm, ← hc]
    exact (map_filterMap_fetch_sublist hcas _).trans (List.filter_sublist _)
  refine ⟨dhs, rfl, hmem, ?_⟩
  rw [List.map_append, List.nodup_append]
  refine ⟨fun h => h.1, fun h => ⟨h, (nodup_fetchEavi_headerQuery _ _).sublist hsub, ?_⟩⟩
  intro a ha hb
  obtain ⟨x, hx, rfl⟩ := List.mem_map.mp hb
  exact ((hmem x).mp hx).2.2 ha

end

theorem getHeaders_merge_two_agents :
    let hash : Content → Address := fun c => match c with
      | .header h => 9 + h.provenances.headD 0
      | .entry _ => 0
    let w : World := ⟨fun r => if r = 1 then [(11, .header ⟨.app "post", 7, [2], none, none⟩),
        (10, .header ⟨.app "post", 7, [1], none, none⟩)] else [],
      fun _ => [⟨7, .entryHeader, 10⟩, ⟨7, .entryHeader, 11⟩], [],
      ⟨fun _ => true, fun _ => true⟩, fun _ => none, 0⟩
    (State.new ⟨5, 0, 1, 0⟩).getHeaders hash w 7 =
        .ok [⟨.app "post", 7, [1], none, none⟩, ⟨.app "post", 7, [2], none, none⟩] ∧
      ∃ dhtHeaders, [⟨.app "post", 7, [1], none, none⟩, ⟨.app "post", 7, [2], none, none⟩] =
          ((State.new ⟨5, 0, 1, 0⟩).agent.iterChain w).filter (·.entryAddress = 7) ++ dhtHeaders ∧
        (∀ hd, hd ∈ dhtHeaders ↔
          ⟨7, .entryHeader, hd.address hash⟩ ∈ w.eav (State.new ⟨5, 0, 1, 0⟩).dht.metaStorage ∧
            (w.cas (State.new ⟨5, 0, 1, 0⟩).dht.contentStorage).fetch (hd.address hash) =
              some (.header hd) ∧
            hd.address hash ∉ (((State.new ⟨5, 0, 1, 0⟩).agent.iterChain w).filter
              (·.entryAddress = 7)).map (·.address hash)) ∧
        ((([⟨.app "post", 7, [1], none, none⟩, ⟨.app "post", 7, [2], none, none⟩] :
            List ChainHeader).map (·.address hash)).Nodup ↔
          ((((State.new ⟨5, 0, 1, 0⟩).agent.iterChain w).filter (·.entryAddress = 7)).map
            (·.address hash)).Nodup) := by
  intro hash w
  have hcas : ∀ a c, (w.cas (State.new ⟨5, 0, 1, 0⟩).dht.contentStorage).fetch a = some c →
      hash c = a := by
    intro a c h
    have hm : (a, c) ∈ [(11, Content.header ⟨.app "post", 7, [2], none, none⟩),
        (10, .header ⟨.app "post", 7, [1], none, none⟩)] := Cas.mem_of_fetch h
    simp only [List.mem_cons, Prod.mk.injEq, List.mem_singleton, List.not_mem_nil, or_false] at hm
    rcases hm with ⟨rfl, rfl⟩ | ⟨rfl, rfl⟩ <;> rfl
  have hget : (State.new ⟨5, 0, 1, 0⟩).getHeaders hash w 7 =
      .ok [⟨.app "post", 7, [1], none, none⟩, ⟨.app "post", 7, [2], none, none⟩] := rfl
  exact ⟨hget, getHeaders_merge _ w 7 hcas hget⟩

end Holochain
