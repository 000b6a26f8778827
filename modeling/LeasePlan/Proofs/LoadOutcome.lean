import Mathlib
import LeasePlan.Config.Load
import LeasePlan.Proofs.OverlongDurations

namespace LeasePlan.Config

/-- The content of a file is a document. -/
def HoldsDocument (files : FileTree) (path : Path) (d : Data) : Prop :=
  ∃ bytes text, files.read path = .ok bytes ∧ Utf8.decode bytes = .ok text ∧ Yaml.read text = .ok d

/-- What ends the loading of a file without a fault: a path that cannot be, bytes that are no text,
a scalar that is not of the kind it is marked as, and a duration of too many days. How deep an
interpreter can go into a document is not looked at. -/
inductive Escapes (files : FileTree) (path : Path) : Prop
  | nullInPath (h : '\x00' ∈ path.chars)
  | notUtf8 {bytes : List UInt8} {f : Utf8.Flaw} (hr : files.read path = .ok bytes)
      (h : Utf8.decode bytes = .error f)
  | mismarked {bytes : List UInt8} {text : List Char} {c : Crash} (hr : files.read path = .ok bytes)
      (ht : Utf8.decode bytes = .ok text) (h : Yaml.read text = .error (.crash c))
  | overlong {d : Data} (hd : HoldsDocument files path d) (h : d.HasOverlong)

/-- A fault that names the file and says why it was not loaded. -/
def FailsFor (path : Path) (x : Except Failure Config) : Prop :=
  ∃ reason, x = .error (loadFailure (.text path.text) reason)

variable {files : FileTree} {path : Path}

theorem load_of_document (hn : '\x00' ∉ path.chars) {d : Data} (h : HoldsDocument files path d) :
    load files path = parse (.text path.text) (orEmpty d) := by
  obtain ⟨bytes, text, hr, ht, hd⟩ := h
  have hn' : ¬ path.chars.contains '\x00' = true := by rwa [List.contains_iff_mem]
  rw [load, if_neg hn', hr]
  dsimp only
  rw [ofBytes, ht]
  dsimp only
  rw [ofText, hd]

/-- Loading gets as far as a document, or ends before. -/
theorem load_cases (files : FileTree) (path : Path) (hn : '\x00' ∉ path.chars) :
    (∃ d, HoldsDocument files path d) ∨ FailsFor path (load files path) ∨
      ∃ c, load files path = .error (.crash c) ∧ Escapes files path := by
  have hn' : ¬ path.chars.contains '\x00' = true := by rwa [List.contains_iff_mem]
  rw [load, if_neg hn']
  cases hr : files.read path with
  | error f => exact .inr (.inl ⟨_, rfl⟩)
  | ok bytes =>
    dsimp only
    rw [ofBytes]
    cases ht : Utf8.decode bytes with
    | error f => exact .inr (.inr ⟨_, rfl, .notUtf8 hr ht⟩)
    | ok text =>
      dsimp only
      rw [ofText]
      cases hd : Yaml.read text with
      | ok d => exact .inl ⟨d, bytes, text, hr, ht, hd⟩
      | error f =>
        cases f with
        | malformed => exact .inr (.inl ⟨_, rfl⟩)
        | crash c => exact .inr (.inr ⟨c, rfl, .mismarked hr ht hd⟩)

theorem load_of_null (h : '\x00' ∈ path.chars) :
    load files path = .error (.crash .nullInPath) :=
  if_pos (List.contains_iff_mem.2 h)

/-- Documents are configurations, or refused with a reason, or say a duration that is too long. -/
theorem parse_cases (source : Mention) (d : Data) :
    (∃ c, parse source d = .ok c) ∨
      (∃ reason, parse source d = .error (loadFailure source reason)) ∨
      ∃ c, parse source d = .error (.crash c) := by
  cases d with
  | mapping es =>
    rw [parse]
    cases (Data.mapping es).readConfig with
    | ok c => exact .inl ⟨c, rfl⟩
    | error is =>
      dsimp only
      cases Failure.outOfRange? is with
      | none => exact .inr (.inl ⟨_, rfl⟩)
      | some n => exact .inr (.inr ⟨_, rfl⟩)
  | _ => exact .inr (.inl ⟨_, rfl⟩)

theorem orEmpty_of_blank {d : Data} (h : d.isBlank = true) : orEmpty d = .mapping [] := if_pos h

theorem orEmpty_of_not_blank {d : Data} (h : d.isBlank = false) : orEmpty d = d :=
  if_neg (by rw [h]; exact Bool.false_ne_true)

theorem hasOverlong_orEmpty {d : Data} : (orEmpty d).HasOverlong ↔ d.HasOverlong := by
  cases hb : d.isBlank with
  | false => rw [orEmpty_of_not_blank hb]
  | true =>
    rw [orEmpty_of_blank hb]
    have hempty : ¬ (Data.mapping []).HasOverlong := by decide
    refine ⟨fun h => absurd h hempty, ?_⟩
    rintro ⟨kind, path, es, n, hr, ho⟩
    obtain ⟨fs, rfl⟩ := hr.exists_mapping
    cases List.isEmpty_iff.1 hb
    exact ⟨kind, path, es, n, hr, ho⟩

theorem not_failsFor_crash (c : Crash) : ¬ FailsFor path (.error (.crash c)) := by
  rintro ⟨reason, h⟩
  cases h

theorem escapes_of_crash {c : Crash} (h : load files path = .error (.crash c)) :
    Escapes files path := by
  by_cases hn : '\x00' ∈ path.chars
  · exact .nullInPath hn
  · rcases load_cases files path hn with ⟨d, hd⟩ | hf | ⟨c', -, he⟩
    · rw [load_of_document hn hd] at h
      exact .overlong hd (hasOverlong_orEmpty.1 ((parse_eq_crash_iff _).1 ⟨c, h⟩))
    · rw [h] at hf
      exact absurd hf (not_failsFor_crash c)
    · exact he

theorem Escapes.exists_crash (h : Escapes files path) :
    ∃ c, load files path = .error (.crash c) := by
  by_cases hn : '\x00' ∈ path.chars
  · exact ⟨_, load_of_null hn⟩
  · have hn' : ¬ path.chars.contains '\x00' = true := by rwa [List.contains_iff_mem]
    cases h with
    | nullInPath h => exact absurd h hn
    | @notUtf8 _ flaw hr h =>
      refine ⟨.notUtf8 flaw, ?_⟩
      rw [load, if_neg hn', hr]
      dsimp only
      rw [ofBytes, h]
    | @mismarked _ _ c hr ht h =>
      refine ⟨c, ?_⟩
      rw [load, if_neg hn', hr]
      dsimp only
      rw [ofBytes, ht]
      dsimp only
      rw [ofText, h]
    | overlong hd h =>
      rw [load_of_document hn hd]
      exact (parse_eq_crash_iff _).2 (hasOverlong_orEmpty.2 h)

/-- Loading ends with a configuration, with a fault for the file, or with a crash. -/
theorem load_ends (files : FileTree) (path : Path) :
    (∃ c, load files path = .ok c) ∨ FailsFor path (load files path) ∨
      ∃ c, load files path = .error (.crash c) := by
  by_cases hn : '\x00' ∈ path.chars
  · exact .inr (.inr ⟨_, load_of_null hn⟩)
  · rcases load_cases files path hn with ⟨d, hd⟩ | hf | ⟨c, hc, -⟩
    · rw [load_of_document hn hd]
      exact parse_cases _ _
    · exact .inr (.inl hf)
    · exact .inr (.inr ⟨c, hc⟩)

theorem documented_iff_not_escapes :
    ((∃ c, load files path = .ok c) ∨ FailsFor path (load files path)) ↔
      ¬ Escapes files path := by
  constructor
  · intro h he
    obtain ⟨crash, hcrash⟩ := he.exists_crash
    rw [hcrash] at h
    rcases h with ⟨c, hc⟩ | hf
    · cases hc
    · exact not_failsFor_crash crash hf
  · intro he
    rcases load_ends files path with hok | hf | ⟨c, hc⟩
    · exact .inl hok
    · exact .inr hf
    · exact absurd (escapes_of_crash hc) he

theorem null_not_mem_of_load {c : Config} (h : load files path = .ok c) : '\x00' ∉ path.chars := by
  intro hn
  cases (load_of_null hn).symm.trans h

theorem document_of_load {c : Config} (h : load files path = .ok c) :
    ∃ d, HoldsDocument files path d ∧ parse (.text path.text) (orEmpty d) = .ok c := by
  have hn := null_not_mem_of_load h
  rcases load_cases files path hn with ⟨d, hd⟩ | ⟨reason, hf⟩ | ⟨crash, hc, -⟩
  · exact ⟨d, hd, (load_of_document hn hd).symm.trans h⟩
  · cases hf.symm.trans h
  · cases hc.symm.trans h

/-- Only mappings are configurations. -/
theorem exists_mapping_of_parse {source : Mention} {d : Data} {c : Config}
    (h : parse source d = .ok c) : ∃ es, d = .mapping es := by
  cases d with
  | mapping es => exact ⟨es, rfl⟩
  | _ => cases h

theorem parse_of_not_mapping {d : Data} (h : ∀ es, d ≠ .mapping es) (source : Mention) :
    parse source d =
      .error (loadFailure source ("top level must be a mapping, got " ++ d.kind)) := by
  cases d with
  | mapping es => exact absurd rfl (h es)
  | _ => rfl

theorem parse_empty (source : Mention) : parse source (.mapping []) = .ok {} := rfl

/-- A tree with one file. -/
def soleFile (path : Path) (bytes : List UInt8) : FileTree := ⟨[(path, .bytes bytes)]⟩

/-- A file in the working directory. -/
def dhcpFile : Path := .ofString "dhcp.yaml"

/-- A tree in which this file is a list with one item. -/
def listTree : FileTree := soleFile dhcpFile (Utf8.encode "[lan]".toList)

end LeasePlan.Config
