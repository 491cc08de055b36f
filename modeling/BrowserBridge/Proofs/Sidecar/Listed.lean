import BrowserBridge.Proofs.List.Firsts
import BrowserBridge.Sidecar.Listing
import Mathlib.Data.Set.Subsingleton

/-!
Which processes are read off the output of the tools that list them.  Only the columns of a line
matter, so the carriage returns and blanks between lines do not.  A process id stands once, where
a line first has it; two outputs with a newline between them are read one after the other.  A port
is known by what stands behind the last colon of an address, so no line is about two ports.
-/

namespace BrowserBridge

namespace Text

theorem columns_concat_blank (line : List Char) {c : Char} (hc : isBlankChar c = true) :
    columns (line ++ [c]) = columns line := by
  rw [columns, List.splitOnP_append_cons line [] hc, List.filter_append]
  simp [columns]

end Text

namespace Listing

section Lines

/-- The carriage return at the end of a line is in none of its columns. -/
theorem columns_dropReturn (line : List Char) :
    Text.columns (dropReturn line) = Text.columns line := by
  rw [dropReturn]
  split
  · next hreturn =>
    conv => rhs; rw [← List.dropLast_append_getLast? _ hreturn]
    exact (Text.columns_concat_blank line.dropLast (by decide)).symm
  · rfl

variable {α : Type} {give : List Char → Option α}

/-- What is read off the columns of lines is read off the pieces between newlines. -/
theorem filterMap_lines (hreturn : ∀ line, give (dropReturn line) = give line)
    (hempty : give [] = none) (text : String) :
    (lines text).filterMap give = (text.toList.splitOn '\n').filterMap give := by
  have hpieces : text.toList.splitOn '\n' ≠ [] := List.splitOnP_ne_nil _ _
  have hcomp : give ∘ dropReturn = give := funext hreturn
  rw [lines, List.getLastD_eq_getLast?, List.getLast?_eq_getLast_of_ne_nil hpieces]
  conv => rhs; rw [← List.dropLast_concat_getLast hpieces]
  rw [List.filterMap_append, List.filterMap_append, List.filterMap_map, hcomp]
  cases (text.toList.splitOn '\n').getLast hpieces with
  | nil => simp [hempty]
  | cons c rest => rfl

/-- Two texts with a newline between them are read one after the other. -/
theorem filterMap_lines_append (hreturn : ∀ line, give (dropReturn line) = give line)
    (hempty : give [] = none) (text later : String) :
    (lines (text ++ "\n" ++ later)).filterMap give =
      (lines text).filterMap give ++ (lines later).filterMap give := by
  have hlist : (text ++ "\n" ++ later).toList = text.toList ++ '\n' :: later.toList := by simp
  rw [filterMap_lines hreturn hempty, filterMap_lines hreturn hempty,
    filterMap_lines hreturn hempty, ← List.filterMap_append, hlist]
  exact congrArg _ (List.splitOnP_append_cons _ _ (beq_self_eq_true '\n'))

end Lines

theorem pid?_eq_some_iff {column : String} {pid : UInt32} :
    pid? column = some pid ↔ Text.IsNumeral column pid.toNat := by
  rw [pid?, Option.map_eq_some_iff]
  constructor
  · rintro ⟨n, hread, rfl⟩
    obtain ⟨hnumeral, hless⟩ := Text.natBelow?_eq_some_iff.mp hread
    rwa [UInt32.toNat_ofNat_of_lt' hless]
  · intro hnumeral
    exact ⟨pid.toNat, Text.natBelow?_eq_some_iff.mpr ⟨hnumeral, pid.toNat_lt⟩,
      UInt32.ofNat_toNat⟩

section Lsof

/-- The second column of a line spells a process id. -/
def HasPid (line : List Char) (pid : UInt32) : Prop :=
  ∃ name column rest, Text.columns line = name :: column :: rest ∧
    Text.IsNumeral column pid.toNat

theorem ofLsofLine_eq_some_iff {line : List Char} {process : ProcessInfo} :
    ofLsofLine line = some process ↔ ∃ column rest,
      Text.columns line = process.name :: column :: rest ∧
        Text.IsNumeral column process.pid.toNat := by
  rw [ofLsofLine]
  rcases Text.columns line with _ | ⟨name, _ | ⟨column, rest⟩⟩
  · simp
  · simp
  · rcases process with ⟨pid, other⟩
    simp [pid?_eq_some_iff, and_comm]

theorem hasPid_iff (line : List Char) (pid : UInt32) :
    HasPid line pid ↔ ∃ process, ofLsofLine line = some process ∧ process.pid = pid := by
  constructor
  · rintro ⟨name, column, rest, hcolumns, hnumeral⟩
    exact ⟨⟨pid, name⟩, ofLsofLine_eq_some_iff.mpr ⟨column, rest, hcolumns, hnumeral⟩, rfl⟩
  · rintro ⟨process, hread, rfl⟩
    obtain ⟨column, rest, hcolumns, hnumeral⟩ := ofLsofLine_eq_some_iff.mp hread
    exact ⟨process.name, column, rest, hcolumns, hnumeral⟩

theorem ofLsofLine_dropReturn (line : List Char) :
    ofLsofLine (dropReturn line) = ofLsofLine line := by
  rw [ofLsofLine, columns_dropReturn, ofLsofLine]

theorem ofLsof_eq_firsts (output : String) :
    ofLsof output = Firsts.firsts ProcessInfo.pid ((lines output).filterMap ofLsofLine) := rfl

/-- The processes in the output of `lsof` have different ids: those that a line has in its second
column, in the order in which they first appear.  The name of a process is the first column of the
first line with its id.  Of an output behind another one and a newline, the processes with new ids
are added. -/
theorem ofLsof_first_lines (output : String) :
    FirstAppearances HasPid (lines output) ((ofLsof output).map ProcessInfo.pid) ∧
      (∀ process, process ∈ ofLsof output ↔ ∃ before line after column rest,
        lines output = before ++ line :: after ∧
          Text.columns line = process.name :: column :: rest ∧
          Text.IsNumeral column process.pid.toNat ∧
          ∀ earlier ∈ before, ¬ HasPid earlier process.pid) ∧
      ∀ later : String, ofLsof (output ++ "\n" ++ later) =
        ofLsof output ++ (ofLsof later).filter fun process =>
          process.pid ∉ (ofLsof output).map ProcessInfo.pid := by
  refine ⟨Firsts.firstAppearances hasPid_iff _, fun process => ?_, fun later => ?_⟩
  · rw [ofLsof_eq_firsts, Firsts.mem_firsts_filterMap_iff hasPid_iff]
    simp only [ofLsofLine_eq_some_iff]
    constructor
    · rintro ⟨before, line, after, hlines, ⟨column, rest, hcolumns, hnumeral⟩, hnew⟩
      exact ⟨before, line, after, column, rest, hlines, hcolumns, hnumeral, hnew⟩
    · rintro ⟨before, line, after, column, rest, hlines, hcolumns, hnumeral, hnew⟩
      exact ⟨before, line, after, hlines, ⟨column, rest, hcolumns, hnumeral⟩, hnew⟩
  · simp only [ofLsof_eq_firsts]
    rw [filterMap_lines_append ofLsofLine_dropReturn rfl, Firsts.firsts_append]
    rfl

end Lsof

section Netstat

/-- `text` is what stands behind the last colon of an address. -/
def AfterLastColon (address text : String) : Prop :=
  ∃ host, address.toList = host ++ ':' :: text.toList ∧ ':' ∉ text.toList

theorem eq_of_cons_eq_append_cons {c : Char} {text more other : List Char}
    (h : c :: text = more ++ c :: other) (hnone : c ∉ text) : text = other := by
  cases more with
  | nil => exact (List.cons.inj h).2
  | cons d more =>
      obtain ⟨-, rfl⟩ := List.cons.inj h
      exact absurd (List.mem_append_right more List.mem_cons_self) hnone

theorem AfterLastColon.unique {address text other : String} (htext : AfterLastColon address text)
    (hother : AfterLastColon address other) : text = other := by
  obtain ⟨host, haddress, htext⟩ := htext
  obtain ⟨otherHost, hotherAddress, hother⟩ := hother
  rw [haddress] at hotherAddress
  -- If one host were longer, the other's last colon would stand in it and not be the last.
  rcases List.append_eq_append_iff.mp hotherAddress with ⟨more, -, hrest⟩ | ⟨more, -, hrest⟩
  · exact String.toList_inj.mp (eq_of_cons_eq_append_cons hrest htext)
  · exact String.toList_inj.mp (eq_of_cons_eq_append_cons hrest hother).symm

/-- A line is about a listener on a port with a process id. -/
def Listens (port : UInt16) (line : List Char) (pid : UInt32) : Prop :=
  ∃ protocol address peer state column,
    Text.columns line = [protocol, address, peer, state, column] ∧
      ProcessInfo.lowered protocol = ProcessInfo.lowered "TCP" ∧
      AfterLastColon address (toString port.toNat) ∧
      ProcessInfo.lowered state = ProcessInfo.lowered "LISTENING" ∧
      Text.IsNumeral column pid.toNat

theorem colon_notMem_toString (n : Nat) : ':' ∉ (toString n).toList := by
  intro hmem
  rw [Nat.toString_eq_ofList_toDigits, String.toList_ofList] at hmem
  exact absurd (Text.isDigit_toDigits n ':' hmem) (by decide)

theorem isSuffixOf_iff_afterLastColon (port : UInt16) (address : String) :
    (':' :: Nat.toDigits 10 port.toNat).isSuffixOf address.toList = true ↔
      AfterLastColon address (toString port.toNat) := by
  have hdigits : (toString port.toNat).toList = Nat.toDigits 10 port.toNat := by
    rw [Nat.toString_eq_ofList_toDigits, String.toList_ofList]
  rw [List.isSuffixOf_iff_suffix, ← hdigits]
  constructor
  · rintro ⟨host, haddress⟩
    exact ⟨host, haddress.symm, colon_notMem_toString _⟩
  · rintro ⟨host, haddress, -⟩
    exact ⟨host, haddress.symm⟩

theorem ofNetstatLine_eq_some_iff {port : UInt16} {line : List Char} {pid : UInt32} :
    ofNetstatLine port line = some pid ↔ Listens port line pid := by
  have hprotocol : ProcessInfo.lowered "TCP" = "tcp".toList := by decide
  have hstate : ProcessInfo.lowered "LISTENING" = "listening".toList := by decide
  rw [ofNetstatLine]
  split
  · next protocol address peer state column hcolumns =>
    rw [Option.ite_none_right_eq_some, pid?_eq_some_iff]
    simp only [Bool.and_eq_true, decide_eq_true_eq, isSuffixOf_iff_afterLastColon, ← hprotocol,
      ← hstate]
    constructor
    · rintro ⟨⟨⟨htcp, haddress⟩, hlistening⟩, hnumeral⟩
      exact ⟨protocol, address, peer, state, column, hcolumns, htcp, haddress, hlistening, hnumeral⟩
    · rintro ⟨_, _, _, _, _, hother, htcp, haddress, hlistening, hnumeral⟩
      obtain ⟨rfl, rfl, rfl, rfl, rfl⟩ : _ ∧ _ ∧ _ ∧ _ ∧ _ := by
        simpa using hcolumns.symm.trans hother
      exact ⟨⟨⟨htcp, haddress⟩, hlistening⟩, hnumeral⟩
  · next hother =>
    constructor
    · rintro ⟨⟩
    · rintro ⟨protocol, address, peer, state, column, hcolumns, -⟩
      exact absurd hcolumns (hother protocol address peer state column)

/-- The ports that a line is about are one at most. -/
theorem Listens.port_unique {line : List Char} {port other : UInt16} {pid otherPid : UInt32}
    (h : Listens port line pid) (hother : Listens other line otherPid) : port = other := by
  obtain ⟨_, _, _, _, _, hcolumns, -, haddress, -⟩ := h
  obtain ⟨_, _, _, _, _, hsame, -, hotherAddress, -⟩ := hother
  obtain ⟨-, rfl, -⟩ : _ ∧ _ ∧ _ := by simpa using hcolumns.symm.trans hsame
  exact UInt16.toNat_inj.mp (Text.toString_inj (haddress.unique hotherAddress))

/-- The process ids of the listeners on a port are those of the lines of five columns that name
the protocol and the state in any case, whose local address has the port behind its last colon and
whose last column spells a process id; each stands once, in the order of first appearance.  No
line counts for two ports. -/
theorem ofNetstat_separates_ports (output : String) (port : UInt16) :
    (∀ line pid, ofNetstatLine port line = some pid ↔ Listens port line pid) ∧
      FirstAppearances (Listens port) (lines output) (ofNetstat output port) ∧
      ∀ line, {other | (ofNetstatLine other line).isSome}.Subsingleton := by
  refine ⟨fun _ _ => ofNetstatLine_eq_some_iff, ?_, fun line one hone other hother => ?_⟩
  · have hlistens : ∀ line pid, Listens port line pid ↔
        ∃ found, ofNetstatLine port line = some found ∧ id found = pid := by
      simp [ofNetstatLine_eq_some_iff]
    have happearances := Firsts.firstAppearances hlistens (lines output)
    rwa [List.map_id] at happearances
  · obtain ⟨pid, hpid⟩ := Option.isSome_iff_exists.mp hone
    obtain ⟨otherPid, hotherPid⟩ := Option.isSome_iff_exists.mp hother
    exact (ofNetstatLine_eq_some_iff.mp hpid).port_unique (ofNetstatLine_eq_some_iff.mp hotherPid)

/-- A port whose numeral ends in another's is another port. -/
example : ofNetstat "tcp [::]:19092 [::]:0 Listening 6000\r\nTCP [::]:9092 [::]:0 LISTENING 5150"
    9092 = [5150] := by rfl

end Netstat

end Listing

end BrowserBridge
