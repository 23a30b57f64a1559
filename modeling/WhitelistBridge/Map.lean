import Mathlib.Data.List.AList

/-!
# String-keyed maps and name sets

Every container of the bridge is keyed by a topic or service name. A
`std::map<std::string, V>` is modelled as an `AList` over `String`: one entry per key, read
with `lookup`, written with `insert` (`operator[]` followed by an assignment) and `erase`.
A `std::set<std::string>` is a `List String` grown with `List.insert`, which adds a name only
when it is absent.

## Iteration order

`std::map` iterates in key order, an `AList` in the order of its entries. No loop of the
bridge depends on that order: each iteration reads and writes only the entry of the key it
visits. `lookup_foldl_of_pointwise` states this once for every such loop: a fold over the
entries of a map whose body is `Pointwise` leaves at each key the value the body computes
from that key's own entry and old value, whatever the order of the entries.
`foldl_snd_eq_of_local` and `mem_foldl_of_adds` do the same for loops that also carry a set of
names which each iteration reads and grows only at its own key.
-/

namespace WhitelistBridge

/-- A `std::map<std::string, V>`. -/
abbrev StrMap (V : Type) := AList fun _ : String ↦ V

variable {α β : Type}

/-- A loop body over the entries of a map that touches only the key it visits: visiting
`⟨k, a⟩` replaces the value at `k` by `g k a` of the old one and leaves every other key
alone. -/
def Pointwise (body : StrMap β → (Σ _ : String, α) → StrMap β)
    (g : String → α → Option β → Option β) : Prop :=
  ∀ m e k, (body m e).lookup k = if k = e.1 then g e.1 e.2 (m.lookup k) else m.lookup k

/-- A pointwise fold over entries with distinct keys acts key by key. -/
theorem lookup_foldl_list_of_pointwise {body : StrMap β → (Σ _ : String, α) → StrMap β}
    {g : String → α → Option β → Option β} (hb : Pointwise body g)
    {es : List (Σ _ : String, α)} (hnd : es.NodupKeys) (m : StrMap β) (k : String) :
    (es.foldl body m).lookup k =
      match es.dlookup k with
      | some a => g k a (m.lookup k)
      | none => m.lookup k := by
  induction es generalizing m with
  | nil => rfl
  | cons e es ih =>
    obtain ⟨hnotin, hnd⟩ := List.nodupKeys_cons.1 hnd
    rw [List.foldl_cons, ih hnd, hb]
    by_cases hk : k = e.1
    · subst hk
      rw [List.dlookup_eq_none.2 hnotin, List.dlookup_cons_eq, if_pos rfl]
    · simp only [List.dlookup_cons_ne _ _ hk, if_neg hk]

/-- **A pointwise loop over a map acts key by key.** After a loop over the entries of `s`, a
key of `s` carries `g` of its entry and its old value; any other key keeps its old value. -/
theorem lookup_foldl_of_pointwise {body : StrMap β → (Σ _ : String, α) → StrMap β}
    {g : String → α → Option β → Option β} (hb : Pointwise body g) (s : StrMap α)
    (m : StrMap β) (k : String) :
    (s.entries.foldl body m).lookup k =
      match s.lookup k with
      | some a => g k a (m.lookup k)
      | none => m.lookup k :=
  lookup_foldl_list_of_pointwise hb s.nodupKeys m k

/-- A fold whose body leaves the accumulator alone at every entry is the identity. -/
theorem foldl_eq_self {body : StrMap β → (Σ _ : String, α) → StrMap β} {m : StrMap β} :
    ∀ {es : List (Σ _ : String, α)}, (∀ e ∈ es, body m e = m) → es.foldl body m = m
  | [], _ => rfl
  | e :: es, h => by
    rw [List.foldl_cons, h e (List.mem_cons_self e es)]
    exact foldl_eq_self fun e' he' ↦ h e' (List.mem_cons_of_mem e he')

/-! ### Loops that may throw -/

/-- A throwing fold whose body returns the accumulator at every entry returns it. -/
theorem foldlM_eq_self {body : StrMap β → (Σ _ : String, α) → Option (StrMap β)}
    {m : StrMap β} :
    ∀ {es : List (Σ _ : String, α)}, (∀ e ∈ es, body m e = some m) → es.foldlM body m = some m
  | [], _ => rfl
  | e :: es, h => by
    rw [List.foldlM_cons, h e (List.mem_cons_self e es)]
    exact foldlM_eq_self fun e' he' ↦ h e' (List.mem_cons_of_mem e he')

/-- What every completed iteration of a throwing loop keeps holds after the loop. -/
theorem foldlM_invariant {γ δ : Type} {f : γ → δ → Option γ} (P : γ → Prop)
    (hf : ∀ b a b', P b → f b a = some b' → P b') :
    ∀ (l : List δ) {b b' : γ}, P b → l.foldlM f b = some b' → P b'
  | [], _, _, hb, h => by cases h; exact hb
  | a :: l, b, _, hb, h => by
    rw [List.foldlM_cons] at h
    obtain ⟨b₁, h₁, h₂⟩ := Option.bind_eq_some.1 h
    exact foldlM_invariant P hf l (hf b a b₁ hb h₁) h₂

/-- A loop body that may throw and touches only the key it visits: at `⟨k, a⟩` it throws
exactly when `g k a` of the old value is `none`; otherwise it writes at `k` the value `g`
gives and leaves every other key alone. -/
def PointwiseM (body : StrMap β → (Σ _ : String, α) → Option (StrMap β))
    (g : String → α → Option β → Option (Option β)) : Prop :=
  ∀ m e, ((body m e).isSome ↔ (g e.1 e.2 (m.lookup e.1)).isSome) ∧
    ∀ m', body m e = some m' → ∀ k,
      m'.lookup k = if k = e.1 then (g e.1 e.2 (m.lookup e.1)).join else m.lookup k

section PointwiseM

variable {body : StrMap β → (Σ _ : String, α) → Option (StrMap β)}
  {g : String → α → Option β → Option (Option β)}

theorem lookup_eq_of_pointwiseM (hb : PointwiseM body g) {m m' : StrMap β}
    {e : Σ _ : String, α} (h : body m e = some m') {k : String} (hk : k ≠ e.1) :
    m'.lookup k = m.lookup k := by
  rw [(hb m e).2 m' h k, if_neg hk]

/-- A throwing pointwise fold completes exactly when no entry makes its body throw. -/
theorem isSome_foldlM_list_of_pointwiseM (hb : PointwiseM body g) :
    ∀ {es : List (Σ _ : String, α)}, es.NodupKeys → ∀ m : StrMap β,
      (es.foldlM body m).isSome ↔ ∀ e ∈ es, (g e.1 e.2 (m.lookup e.1)).isSome
  | [], _, _ => by simp [pure]
  | e :: es, hnd, m => by
    obtain ⟨hnotin, hnd⟩ := List.nodupKeys_cons.1 hnd
    have hframe : ∀ {m'}, body m e = some m' → ∀ e' ∈ es, m'.lookup e'.1 = m.lookup e'.1 :=
      fun h e' he' ↦ lookup_eq_of_pointwiseM hb h
        fun heq ↦ hnotin (heq ▸ List.mem_keys_of_mem he')
    rw [List.foldlM_cons, List.forall_mem_cons, ← (hb m e).1]
    rcases hbody : body m e with _ | m'
    · simp [bind]
    · simp only [bind, Option.some_bind, Option.isSome_some, true_and]
      rw [isSome_foldlM_list_of_pointwiseM hb hnd m']
      exact forall₂_congr fun e' he' ↦ by rw [hframe hbody e' he']

/-- After a throwing pointwise fold that completes, each key carries what `g` wrote there. -/
theorem lookup_foldlM_list_of_pointwiseM (hb : PointwiseM body g) :
    ∀ {es : List (Σ _ : String, α)}, es.NodupKeys → ∀ {m m' : StrMap β},
      es.foldlM body m = some m' → ∀ k, m'.lookup k =
        match es.dlookup k with
        | some a => (g k a (m.lookup k)).join
        | none => m.lookup k
  | [], _, _, _, h, k => by cases h; rfl
  | e :: es, hnd, m, m', h, k => by
    obtain ⟨hnotin, hnd⟩ := List.nodupKeys_cons.1 hnd
    rw [List.foldlM_cons] at h
    obtain ⟨m₁, h₁, h₂⟩ := Option.bind_eq_some.1 h
    rw [lookup_foldlM_list_of_pointwiseM hb hnd h₂ k, (hb m e).2 m₁ h₁]
    by_cases hk : k = e.1
    · subst hk
      rw [List.dlookup_eq_none.2 hnotin, List.dlookup_cons_eq, if_pos rfl]
    · simp only [List.dlookup_cons_ne _ _ hk, if_neg hk]

/-- **A throwing pointwise loop over a map completes exactly when no entry throws.** -/
theorem isSome_foldlM_of_pointwiseM (hb : PointwiseM body g) (s : StrMap α) (m : StrMap β) :
    (s.entries.foldlM body m).isSome ↔ ∀ e ∈ s.entries, (g e.1 e.2 (m.lookup e.1)).isSome :=
  isSome_foldlM_list_of_pointwiseM hb s.nodupKeys m

/-- **A throwing pointwise loop over a map that completes acts key by key.** -/
theorem lookup_foldlM_of_pointwiseM (hb : PointwiseM body g) (s : StrMap α) {m m' : StrMap β}
    (h : s.entries.foldlM body m = some m') (k : String) :
    m'.lookup k =
      match s.lookup k with
      | some a => (g k a (m.lookup k)).join
      | none => m.lookup k :=
  lookup_foldlM_list_of_pointwiseM hb s.nodupKeys h k

end PointwiseM

/-! ### Loops that carry a set of names -/

/-- A loop that updates two accumulators independently is two loops. -/
theorem foldl_prod {γ δ ε : Type} (f : γ → ε → γ) (g : δ → ε → δ) :
    ∀ (l : List ε) (a : γ) (b : δ),
      l.foldl (fun acc e ↦ (f acc.1 e, g acc.2 e)) (a, b) = (l.foldl f a, l.foldl g b)
  | [], _, _ => rfl
  | e :: l, a, b => foldl_prod f g l (f a e) (g b e)

/-- **A loop that reads a set of names only at the key it visits.** Its accumulator is a state
with a set `names` and a written value. When visiting an entry keeps `P` of the accumulator,
changes the set only
at the entry's key, and writes as `write` does from the set it finds, and `write` reads the set
only at the entry's key, then over entries with distinct keys the loop writes as `write` does
from the set the loop starts with. -/
theorem foldl_snd_eq_of_local {σ M : Type} (names : σ → List String) (P : σ × M → Prop)
    (body : σ × M → (Σ _ : String, α) → σ × M) (write : List String → M → (Σ _ : String, α) → M)
    (hstep : ∀ acc e, P acc → P (body acc e) ∧
      (∀ k, k ≠ e.1 → (k ∈ names (body acc e).1 ↔ k ∈ names acc.1)) ∧
      (body acc e).2 = write (names acc.1) acc.2 e)
    (hwrite : ∀ i i' m e, (e.1 ∈ i ↔ e.1 ∈ i') → write i m e = write i' m e)
    {ignored : List String} :
    ∀ (l : List (Σ _ : String, α)) (acc : σ × M), l.NodupKeys → P acc →
      (∀ e ∈ l, e.1 ∈ names acc.1 ↔ e.1 ∈ ignored) →
      (l.foldl body acc).2 = l.foldl (write ignored) acc.2
  | [], _, _, _, _ => rfl
  | e :: l, acc, hl, hs, hign => by
    obtain ⟨hnotin, hl⟩ := List.nodupKeys_cons.1 hl
    obtain ⟨hs', hnames, hbody⟩ := hstep acc e hs
    have hrest : ∀ e' ∈ l, e'.1 ∈ names (body acc e).1 ↔ e'.1 ∈ ignored := fun e' he' ↦
      (hnames e'.1 fun h ↦ hnotin (h ▸ List.mem_keys_of_mem he')).trans
        (hign e' (List.mem_cons_of_mem e he'))
    rw [List.foldl_cons, List.foldl_cons,
      foldl_snd_eq_of_local names P body write hstep hwrite l _ hl hs' hrest,
      hbody, hwrite _ _ _ _ (hign e (List.mem_cons_self e l))]

/-- A set left alone adds `a` when `c` holds, if `a` is in it whenever `c` holds. -/
theorem mem_iff_or_of_imp {l : List String} {a : String} {c : Prop} (hc : c → a ∈ l)
    (k : String) : k ∈ l ↔ k ∈ l ∨ (k = a ∧ c) :=
  ⟨.inl, fun h ↦ h.elim id fun ⟨hk, h⟩ ↦ hk ▸ hc h⟩

/-- `List.insert a` adds `a` when `c` holds, if `c` holds. -/
theorem mem_insert_iff_or_of {l : List String} {a : String} {c : Prop} (hc : c) (k : String) :
    k ∈ l.insert a ↔ k ∈ l ∨ (k = a ∧ c) := by
  simp only [List.mem_insert_iff, hc, and_true, or_comm]

/-- A loop that adds to a set of names only the key it visits, when `adds` holds of the entry,
ends with the names it started with and the visited keys that `adds` holds of. -/
theorem mem_foldl_of_adds {σ M : Type} (names : σ → List String) (P : σ × M → Prop)
    (body : σ × M → (Σ _ : String, α) → σ × M) (adds : (Σ _ : String, α) → Prop)
    (hstep : ∀ acc e, P acc → P (body acc e) ∧
      ∀ k, k ∈ names (body acc e).1 ↔ k ∈ names acc.1 ∨ (k = e.1 ∧ adds e)) (k : String) :
    ∀ (l : List (Σ _ : String, α)) (acc : σ × M), P acc →
      (k ∈ names (l.foldl body acc).1 ↔ k ∈ names acc.1 ∨ ∃ e ∈ l, k = e.1 ∧ adds e)
  | [], _, _ => by simp
  | e :: l, acc, hp => by
    obtain ⟨hp', hk⟩ := hstep acc e hp
    rw [List.foldl_cons, mem_foldl_of_adds names P body adds hstep k l _ hp', hk, or_assoc]
    simp only [List.mem_cons, or_and_right, exists_or, exists_eq_left]

/-- An entry of a map with key `k` is the one `lookup` finds. -/
theorem exists_mem_entries_iff {s : StrMap α} {k : String} {p : (Σ _ : String, α) → Prop} :
    (∃ e ∈ s.entries, k = e.1 ∧ p e) ↔ ∃ a, s.lookup k = some a ∧ p ⟨k, a⟩ := by
  constructor
  · rintro ⟨⟨_, a⟩, he, rfl, hp⟩
    exact ⟨a, AList.mem_lookup_iff.2 he, hp⟩
  · rintro ⟨a, ha, hp⟩
    exact ⟨⟨k, a⟩, AList.mem_lookup_iff.1 ha, rfl, hp⟩

end WhitelistBridge
