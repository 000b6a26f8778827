import Mathlib
import LeasePlan.Proofs.FlowValues
import LeasePlan.Proofs.LoadOutcome
import LeasePlan.Proofs.Utf8Text

namespace LeasePlan

namespace Yaml

open Json (Gap Key Value Slot Items Entries)

section Characters

/-- What may stand in a text before its line breaks are put right. -/
def IsReadable (c : Char) : Prop := isAllowed c = true ∨ c = '\r'

variable {cs : List Char}

theorem isAllowed_normalBreaks (h : ∀ c ∈ cs, IsReadable c) :
    ∀ c ∈ normalBreaks cs, isAllowed c = true := by
  fun_induction normalBreaks cs with
  | case1 r ih =>
    have hr := (List.forall_mem_cons.1 (List.forall_mem_cons.1 h).2).2
    exact List.forall_mem_cons.2 ⟨rfl, ih hr⟩
  | case2 r hr ih => exact List.forall_mem_cons.2 ⟨rfl, ih (List.forall_mem_cons.1 h).2⟩
  | case3 c r hc hr ih =>
    obtain ⟨hfirst, hrest⟩ := List.forall_mem_cons.1 h
    exact List.forall_mem_cons.2 ⟨hfirst.resolve_right hr, ih hrest⟩
  | case4 => exact List.forall_mem_nil _

theorem readable_gap (g : Gap) : ∀ c ∈ g.chars, IsReadable c := by
  intro c hc
  have hblank := g.blank c hc
  simp only [Json.isBlank, Bool.or_eq_true, decide_eq_true_eq] at hblank
  rcases hblank with ((rfl | rfl) | rfl) | rfl
  · exact .inl rfl
  · exact .inl rfl
  · exact .inr rfl
  · exact .inl rfl

theorem readable_plain (h : ∀ c ∈ cs, isPlainChar c = true) : ∀ c ∈ cs, IsReadable c := by
  intro c hc
  obtain ⟨hl, hu⟩ := toNat_of_isPlainChar (h c hc)
  exact .inl (inline_of_toNat (by omega) (by omega)).1

theorem readable_quote {ps : List Json.Piece} (hp : Json.arePortable ps = true) :
    ∀ c ∈ Json.quote ps, IsReadable c :=
  fun c hc => .inl (inline_quote hp c hc).1

theorem readable_mark {c : Char} (hc : isAllowed c = true) {r : List Char}
    (hr : ∀ c ∈ r, IsReadable c) : ∀ x ∈ c :: r, IsReadable x :=
  List.forall_mem_cons.2 ⟨.inl hc, hr⟩

/-- The same within brackets. -/
theorem readable_closed {a b : Char} (ha : isAllowed a = true) (hb : isAllowed b = true)
    (h : ∀ c ∈ cs, IsReadable c) : ∀ c ∈ a :: (cs ++ [b]), IsReadable c :=
  readable_mark ha (List.forall_mem_append.2 ⟨h, readable_mark hb (List.forall_mem_nil _)⟩)

theorem readable_key {k : Key} (hk : k.isPortable = true) : ∀ c ∈ k.chars, IsReadable c :=
  List.forall_mem_append.2 ⟨readable_gap k.before, List.forall_mem_append.2
    ⟨readable_quote (Graph.arePortable_of_key hk), readable_gap k.after⟩⟩

mutual

theorem readable_value {v : Value} (hv : v.isPortable = true) : ∀ c ∈ v.chars, IsReadable c := by
  cases v with
  | word w => exact readable_plain w.isPlainChar
  | number n => exact readable_plain n.isPlainChar
  | string ps => exact readable_quote hv
  | emptyList gap => exact readable_closed rfl rfl (readable_gap gap)
  | list items => exact readable_closed rfl rfl (readable_items hv)
  | emptyObject gap => exact readable_closed rfl rfl (readable_gap gap)
  | object entries => exact readable_closed rfl rfl (readable_entries hv)

theorem readable_slot {t : Slot} (ht : t.isPortable = true) : ∀ c ∈ t.chars, IsReadable c := by
  cases t with
  | mk before v after =>
    rw [Slot.isPortable, Bool.and_eq_true, Bool.and_eq_true] at ht
    exact List.forall_mem_append.2 ⟨readable_gap before, List.forall_mem_append.2
      ⟨readable_value ht.1.2, readable_gap after⟩⟩

theorem readable_items {items : Items} (hi : items.isPortable = true) :
    ∀ c ∈ items.chars, IsReadable c := by
  cases items with
  | last item => exact readable_slot hi
  | more item rest =>
    rw [Items.isPortable, Bool.and_eq_true] at hi
    exact List.forall_mem_append.2 ⟨readable_slot hi.1, readable_mark rfl (readable_items hi.2)⟩

theorem readable_entries {entries : Entries} (he : entries.isPortable = true) :
    ∀ c ∈ entries.chars, IsReadable c := by
  cases entries with
  | last key value =>
    rw [Entries.isPortable, Bool.and_eq_true] at he
    exact List.forall_mem_append.2 ⟨readable_key he.1, readable_mark rfl (readable_slot he.2)⟩
  | more key value rest =>
    rw [Entries.isPortable, Bool.and_eq_true, Bool.and_eq_true] at he
    exact List.forall_mem_append.2 ⟨readable_key he.1.1, readable_mark rfl
      (List.forall_mem_append.2 ⟨readable_slot he.1.2, readable_mark rfl (readable_entries he.2)⟩)⟩

end

end Characters

/-- YAML reads a portable JSON text in brackets as JSON does. -/
theorem read_portable {t : Slot} (ht : t.isPortable = true) (hc : t.value.isClosed = true) :
    read t.chars = .ok t.data := by
  have hallowed : (normalBreaks t.chars).all isAllowed = true :=
    List.all_eq_true.2 (isAllowed_normalBreaks (readable_slot ht))
  have htokens := tokens_of_portable ht hc
  cases t with
  | mk before v after =>
    have hv : v.isPortable = true := by
      rw [Slot.isPortable, Bool.and_eq_true, Bool.and_eq_true] at ht
      exact ht.1.2
    have hgraph : Graph.ofTokens ((Slot.mk before v after).tokens ++ [.streamEnd]) =
        .ok (some ⟨v.node, []⟩) := ofTokens_value v
    have hcheck := Graph.check_portable ⟨v.node, []⟩ hv hc rfl
    have hvalue := Graph.value_portable ⟨v.node, []⟩ hv rfl
    simp only [read, hallowed, htokens, hgraph, Bool.not_true, Bool.false_eq_true, if_false,
      Bind.bind, Except.bind, hcheck, hvalue]
    rfl

end Yaml

namespace Json

/-- A text in which nothing stands that YAML reads differently. How deep an interpreter can go into
its lists and objects is not looked at. -/
def IsPortable (s : String) : Prop := ∃ t : Slot, t.chars = s.toList ∧ t.isPortable = true

theorem isClosed_of_data {v : Value} {es : List (Data × Data)} (h : v.data = .mapping es) :
    v.isClosed = true := by
  cases v with
  | word w => rcases w with _ | _ <;> cases h
  | number n =>
    rw [Value.data, Number.data, numberOf] at h
    split at h <;> cases h
  | string ps =>
    rw [Value.data, text, Data.ofCodes] at h
    split at h <;> cases h
  | _ => rfl

end Json

namespace Config

/-- A file with a portable JSON text loads like the value that the text has in JSON. -/
theorem load_json {s : String} {es : List (Data × Data)} (hread : Json.read? s = some (.mapping es))
    (hs : Json.IsPortable s) {files : FileTree} {path : Path} (hn : '\x00' ∉ path.chars)
    (hfile : files.read path = .ok (Utf8.encode s.toList)) :
    load files path = parse (.text path.text) (.mapping es) := by
  obtain ⟨t, hchars, ht⟩ := hs
  have hdata : t.data = .mapping es := by
    have htree : Json.read? s = some t.data := Json.read?_eq_some_iff.2 ⟨t, hchars, rfl⟩
    exact Option.some.inj (htree.symm.trans hread)
  have hclosed : t.value.isClosed = true := by
    cases t with
    | mk before v after => exact Json.isClosed_of_data hdata
  have hdocument : HoldsDocument files path (.mapping es) := by
    refine ⟨_, s.toList, hfile, Utf8.decode_encode s.toList, ?_⟩
    rw [← hchars, ← hdata]
    exact Yaml.read_portable ht hclosed
  have hempty : orEmpty (.mapping es) = .mapping es := by
    cases es with
    | nil => rfl
    | cons e es => rfl
  rw [load_of_document hn hdocument, hempty]

open Json in
/-- A portable text with a number, an escape and white space. -/
def portableTree : Slot :=
  let gap : Gap := ⟨[], List.forall_mem_nil _⟩
  let space : Gap := ⟨[' '], List.forall_mem_singleton.2 rfl⟩
  let newline : Gap :=
    ⟨['\r', '\n'], List.forall_mem_cons.2 ⟨rfl, List.forall_mem_singleton.2 rfl⟩⟩
  let digit (c : Char) (h : Numeral.isDigit c = true) : Digits :=
    ⟨[c], List.cons_ne_nil c [], List.forall_mem_singleton.2 h⟩
  let raw (s : String) : List Piece := s.toList.filterMap fun c =>
    if h : 32 ≤ c.toNat ∧ c ≠ '"' ∧ c ≠ '\\' then some (.raw c h) else none
  let seconds : Number :=
    { negative := true, whole := digit '1' rfl, places := some (digit '5' rfl),
      exponent := some ⟨'E', .plus, digit '1' rfl, .inr rfl⟩, head := fun h => by cases h }
  .mk newline (.object
    (.more ⟨gap, raw "icmp_timeout", space⟩ (.mk space (.number seconds) gap)
      (.last ⟨space, raw "local_domain_name", gap⟩
        (.mk gap (.string (raw "l" ++ .unit '0' '0' '6' '1' 97 rfl :: raw "n")) space)))) gap

/-- The characters of that tree. -/
def portableText : String :=
  "\r\n\x7b\"icmp_timeout\" : -1.5E+1, \"local_domain_name\":\"l\\u0061n\" \x7d"

theorem load_json_portable :
    ∃ es, Json.read? portableText = some (.mapping es) ∧ Json.IsPortable portableText ∧
      '\x00' ∉ dhcpFile.chars ∧
      load (soleFile dhcpFile (Utf8.encode portableText.toList)) dhcpFile =
        parse (.text dhcpFile.text) (.mapping es) := by
  have hchars : portableTree.chars = portableText.toList := by decide +kernel
  have hportable : Json.IsPortable portableText := ⟨portableTree, hchars, by decide +kernel⟩
  have hread : Json.read? portableText = some (.mapping _) :=
    Json.read?_eq_some_iff.2 ⟨portableTree, hchars, rfl⟩
  have hnull : '\x00' ∉ dhcpFile.chars := by decide
  exact ⟨_, hread, hportable, hnull, load_json hread hportable hnull rfl⟩

/-- A file with a JSON text does not load like the value that the text has in JSON. -/
def Misread (s : String) : Prop :=
  ∃ es, Json.read? s = some (.mapping es) ∧
    load (soleFile dhcpFile (Utf8.encode s.toList)) dhcpFile ≠
      parse (.text dhcpFile.text) (.mapping es)

/-- Whether the file with a JSON text gives another configuration than the value of the text. -/
def differsAsFile (s : String) : Bool :=
  match Json.read? s with
  | some (.mapping es) =>
    (load (soleFile dhcpFile (Utf8.encode s.toList)) dhcpFile).toOption ≠
      (parse (.text dhcpFile.text) (.mapping es)).toOption
  | _ => false

theorem misread_of_differs {s : String} (h : differsAsFile s = true) : Misread s := by
  unfold differsAsFile at h
  split at h
  · next es hread => exact ⟨es, hread, fun heq => of_decide_eq_true h (congrArg _ heq)⟩
  · cases h

/-- A power of ten without a point, a tab, a pair of surrogates, and a colon on a line of its
own. -/
theorem json_misread :
    Misread "\x7b\"icmp_timeout\": 1e1\x7d" ∧ Misread "\x7b\t\"enabled\": true\x7d" ∧
      Misread "\x7b\"local_domain_name\": \"\\ud83d\\ude00\"\x7d" ∧
      Misread "\x7b\"enabled\"\n: true\x7d" := by
  refine ⟨misread_of_differs ?_, misread_of_differs ?_, misread_of_differs ?_,
    misread_of_differs ?_⟩
  · decide +kernel
  · decide +kernel
  · decide +kernel
  · decide +kernel

end Config

end LeasePlan
