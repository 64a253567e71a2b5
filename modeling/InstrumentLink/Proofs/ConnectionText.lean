import InstrumentLink.Log
import InstrumentLink.Proofs.Blame
import InstrumentLink.Proofs.QuotedText
import InstrumentLink.Proofs.SlashFields

/-!
# Connections through text and back

The first field of a connection string decides what it is.  Under the name of network
streams the next two fields are host and port, which must both be there, and whatever
comes behind them is reported and left out; every other text is a path as it stands.
A connection is read back from its own text, and that text is the one it was read
from exactly if nothing was reported.
-/

namespace InstrumentLink.Connection

open LinkError

/-- How a text is read as a connection. -/
inductive Reads (text : String) : Parsed → Prop
  | serial (hsome : text ≠ "") (hname : (Text.fields text).head? ≠ some tcpName) :
      Reads text { connection := .serial text }
  | tcp {host port : String} {later : List String}
      (hfields : Text.fields text = tcpName :: host :: port :: later)
      (hhost : host ≠ "") (hport : port ≠ "") :
      Reads text { connection := .tcp host port, ignored := later }

/-- The name of network streams, but no host or no port. -/
def Incomplete (text : String) : Prop :=
  (Text.fields text).head? = some tcpName ∧
    ((Text.fields text).getD 1 "" = "" ∨ (Text.fields text).getD 2 "" = "")

variable {text : String} {parsed : Parsed}

theorem fields_eq_cons (text : String) : ∃ first rest, Text.fields text = first :: rest :=
  List.exists_cons_of_ne_nil (Text.fields_eq_iff.mp rfl).1

/-- Every text is read, empty or incomplete. -/
theorem reads_or_refused (text : String) :
    (∃ parsed, Reads text parsed) ∨ text = "" ∨ Incomplete text := by
  by_cases hname : (Text.fields text).head? = some tcpName
  · obtain ⟨rest, hfields⟩ := List.head?_eq_some_iff.mp hname
    match rest, hfields with
    | [], hfields => exact .inr (.inr ⟨hname, .inl (by rw [hfields]; rfl)⟩)
    | [_], hfields => exact .inr (.inr ⟨hname, .inr (by rw [hfields]; rfl)⟩)
    | host :: port :: later, hfields =>
        by_cases hhost : host = ""
        · exact .inr (.inr ⟨hname, .inl (by rw [hfields]; exact hhost)⟩)
        · by_cases hport : port = ""
          · exact .inr (.inr ⟨hname, .inr (by rw [hfields]; exact hport)⟩)
          · exact .inl ⟨_, .tcp hfields hhost hport⟩
  · by_cases hempty : text = ""
    · exact .inr (.inl hempty)
    · exact .inl ⟨_, .serial hempty hname⟩

theorem ne_empty_of_name (hname : (Text.fields text).head? = some tcpName) : text ≠ "" := by
  rintro rfl
  exact absurd hname (by decide)

theorem parse_of_reads (hreads : Reads text parsed) : parse text = .ok parsed := by
  cases hreads with
  | serial hsome hname =>
      obtain ⟨first, rest, hfields⟩ := fields_eq_cons text
      have hfirst : first.toList ≠ tcpName.toList := by
        rw [hfields, List.head?_cons] at hname
        exact fun hsame => hname (congrArg some (String.toList_inj.mp hsame))
      rw [parse, if_neg hsome, Text.splitOn_eq_fields, hfields, List.map_cons]
      exact if_pos hfirst
  | @tcp host port later hfields hhost hport =>
      have hsome : text ≠ "" := ne_empty_of_name (by rw [hfields, List.head?_cons])
      obtain ⟨h, host', hhost'⟩ :=
        List.exists_cons_of_ne_nil (mt String.toList_eq_nil_iff.mp hhost)
      obtain ⟨p, port', hport'⟩ :=
        List.exists_cons_of_ne_nil (mt String.toList_eq_nil_iff.mp hport)
      rw [parse, if_neg hsome, Text.splitOn_eq_fields, hfields]
      simp only [List.map_cons, hhost', hport', ne_eq, not_true_eq_false, if_false]
      rw [← hhost', ← hport']
      simp [Function.comp_def]

theorem parse_of_incomplete (hincomplete : Incomplete text) :
    parse text = .error (.argument (.endpointIncomplete text)) := by
  obtain ⟨hname, hmissing⟩ := hincomplete
  obtain ⟨rest, hfields⟩ := List.head?_eq_some_iff.mp hname
  rw [hfields] at hmissing
  rw [parse, if_neg (ne_empty_of_name hname), Text.splitOn_eq_fields, hfields, List.map_cons]
  simp only [ne_eq, not_true_eq_false, if_false]
  split
  · next h host p port extra hrest =>
      obtain ⟨first, _, rfl, hhost, hmore⟩ := List.map_eq_cons_iff.mp hrest
      obtain ⟨second, _, rfl, hport, _⟩ := List.map_eq_cons_iff.mp hmore
      rcases hmissing with hmissing | hmissing
      · change first = "" at hmissing
        rw [hmissing] at hhost
        cases hhost
      · change second = "" at hmissing
        rw [hmissing] at hport
        cases hport
  · rfl

theorem parse_eq_ok_iff : parse text = .ok parsed ↔ Reads text parsed := by
  refine ⟨?_, parse_of_reads⟩
  intro hparse
  rcases reads_or_refused text with ⟨read, hreads⟩ | rfl | hincomplete
  · rw [parse_of_reads hreads] at hparse
    cases hparse
    exact hreads
  · cases hparse
  · rw [parse_of_incomplete hincomplete] at hparse
    cases hparse

theorem parse_eq_argument_iff :
    (∃ cause, parse text = .error (.argument cause)) ↔ text = "" ∨ Incomplete text := by
  constructor
  · rintro ⟨cause, hparse⟩
    rcases reads_or_refused text with ⟨read, hreads⟩ | hrefused
    · rw [parse_of_reads hreads] at hparse
      cases hparse
    · exact hrefused
  · rintro (rfl | hincomplete)
    · exact ⟨_, rfl⟩
    · exact ⟨_, parse_of_incomplete hincomplete⟩

/-- What is reported about a text are the fields behind the port. -/
theorem notices_of_reads (hreads : Reads text parsed) :
    parsed.notices text =
      if (Text.fields text).head? = some tcpName ∧ 3 < (Text.fields text).length then
        [.ignoredFields text ((Text.fields text).drop 3)]
      else [] := by
  cases hreads with
  | serial _ hname => rw [if_neg fun hextra => hname hextra.1]; rfl
  | @tcp host port later hfields _ _ =>
      rw [hfields]
      cases later with
      | nil => rfl
      | cons field more => rw [if_pos ⟨rfl, by simp⟩]; rfl

theorem notices_eq_nil_iff : parsed.notices text = [] ↔ parsed.ignored = [] := by
  rw [Parsed.notices]
  split
  · next hnone => exact ⟨fun _ => hnone, fun _ => rfl⟩
  · next hsome => exact ⟨fun hnil => absurd hnil (List.cons_ne_nil _ _), fun h => absurd h hsome⟩

theorem text_tcp (host port : String) :
    (tcp host port).text = "/".intercalate [tcpName, host, port] := by
  simp [Connection.text, String.intercalate_cons_cons, String.append_assoc]

/-- Host and port are fields, so they hold no slash. -/
theorem fields_tcp {host port : String} {later : List String}
    (hfields : Text.fields text = tcpName :: host :: port :: later) :
    Text.fields (tcp host port).text = [tcpName, host, port] := by
  have hslash := (Text.fields_eq_iff.mp hfields).2.1
  refine Text.fields_eq_iff.mpr ⟨List.cons_ne_nil _ _, ?_, (text_tcp host port).symm⟩
  intro part hpart
  exact hslash part (List.mem_append_left later hpart)

/-- The text of a connection that was read holds no field that would be left out. -/
theorem reads_text (hreads : Reads text parsed) :
    Reads parsed.connection.text { connection := parsed.connection } := by
  cases hreads with
  | serial hsome hname => exact .serial hsome hname
  | tcp hfields hhost hport => exact .tcp (fields_tcp hfields) hhost hport

/-- The text of a connection is the one it was read from if nothing was left out. -/
theorem text_eq_iff (hreads : Reads text parsed) :
    parsed.connection.text = text ↔ parsed.ignored = [] := by
  cases hreads with
  | serial _ _ => exact iff_of_true rfl rfl
  | @tcp host port later hfields _ _ =>
      constructor
      · intro htext
        have hsame := fields_tcp hfields
        rw [htext, hfields] at hsame
        simpa using hsame
      · intro hnone
        obtain rfl : later = [] := hnone
        rw [text_tcp, ← hfields, Text.intercalate_fields]

theorem text_ignoredFields (text : String) (fields : List String) :
    (LogLine.ignoredFields text fields).text =
      "WARN Connection string '" ++ text ++ "': ignoring " ++ fields.length.repr ++
        " extra field(s) " ++ Text.quoteList fields ++ ", reserved for future use" := rfl

/-- The wording of the report says which fields were left out. -/
theorem ignoredFields_of_text {text : String} {fields others : List String}
    (hsame : (LogLine.ignoredFields text fields).text = (LogLine.ignoredFields text others).text) :
    fields = others := by
  have hspace : ∀ n : Nat, ' ' ∉ Nat.toDigits 10 n := by
    intro n hspace
    have hdigit := Nat.isDigit_of_mem_toDigits (by decide) (by decide) hspace
    exact absurd hdigit (by decide)
  have hwords : " extra field(s) ".toList = ' ' :: "extra field(s) ".toList := by decide
  have hchars := congrArg String.toList hsame
  simp only [text_ignoredFields, String.toList_append, List.append_assoc, Nat.toList_repr,
    List.append_cancel_left_eq, hwords, List.cons_append] at hchars
  have hcount := congrArg (List.splitOn ' ') hchars
  rw [List.splitOn_append_cons_self_of_not_mem (hspace _),
    List.splitOn_append_cons_self_of_not_mem (hspace _)] at hcount
  rw [(List.cons.inj hcount).1] at hchars
  simp only [List.append_cancel_left_eq, List.cons.injEq, true_and,
    List.append_cancel_right_eq, String.toList_inj] at hchars
  exact Text.quoteList_injective hchars

/-- Which texts are connections, what they are read as and which fields are reported
about them; and a connection that was read is read back from its own text. -/
theorem parse_faithful :
    (∀ text, (∃ cause, parse text = .error (.argument cause)) ↔ text = "" ∨ Incomplete text) ∧
    (∀ text, Blames OfArgument (parse text)) ∧
    (∀ text parsed, parse text = .ok parsed ↔ Reads text parsed) ∧
    (∀ text parsed, parse text = .ok parsed →
      parsed.notices text =
        if (Text.fields text).head? = some tcpName ∧ 3 < (Text.fields text).length then
          [.ignoredFields text ((Text.fields text).drop 3)]
        else []) ∧
    (∀ text fields others,
      (LogLine.ignoredFields text fields).text = (LogLine.ignoredFields text others).text →
      fields = others) ∧
    ∀ text parsed, parse text = .ok parsed →
      parse parsed.connection.text = .ok { connection := parsed.connection } ∧
      ({ connection := parsed.connection } : Parsed).notices parsed.connection.text = [] ∧
      (parsed.connection.text = text ↔ parsed.notices text = []) := by
  refine ⟨fun _ => parse_eq_argument_iff, ?_, fun _ _ => parse_eq_ok_iff, ?_,
    fun _ _ _ => ignoredFields_of_text, ?_⟩
  · intro text error hparse
    rcases reads_or_refused text with ⟨parsed, hreads⟩ | hrefused
    · rw [parse_of_reads hreads] at hparse
      cases hparse
    · obtain ⟨cause, hcause⟩ := parse_eq_argument_iff.mpr hrefused
      rw [hcause] at hparse
      cases hparse
      exact ⟨cause, rfl⟩
  · intro text parsed hparse
    exact notices_of_reads (parse_eq_ok_iff.mp hparse)
  · intro text parsed hparse
    have hreads := parse_eq_ok_iff.mp hparse
    exact ⟨parse_of_reads (reads_text hreads), rfl,
      (text_eq_iff hreads).trans notices_eq_nil_iff.symm⟩

/-- A field and an empty one behind the port are reported, and the rest is read again. -/
theorem parse_faithful_longer :
    parse "tcp-raw/localhost/1234/a/" =
      .ok { connection := .tcp "localhost" "1234", ignored := ["a", ""] } ∧
    Parsed.notices { connection := .tcp "localhost" "1234", ignored := ["a", ""] }
        "tcp-raw/localhost/1234/a/" =
      [.ignoredFields "tcp-raw/localhost/1234/a/" ["a", ""]] ∧
    parse "tcp-raw/localhost/1234" = .ok { connection := .tcp "localhost" "1234" } := by
  have hfields : Text.fields "tcp-raw/localhost/1234/a/" =
      ["tcp-raw", "localhost", "1234", "a", ""] := by decide
  have hread := parse_of_reads (.tcp hfields (by decide) (by decide))
  have hnotices := parse_faithful.2.2.2.1 _ _ hread
  rw [hfields] at hnotices
  exact ⟨hread, hnotices, (parse_faithful.2.2.2.2.2 _ _ hread).1⟩

end InstrumentLink.Connection
