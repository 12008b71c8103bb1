import Stubsmith.Proofs.Report.Agreement

/-!
# What a report tells

A report is read back as a reader sees it: its errors, and its headings each with the entries under
it (`ReportItem.sections`). Every part of a report adds its own errors and sections to those of the
other parts (`Adds`), and a report is put together from what the pass of the manifest found
(`Manifest.findings`), so nothing of that is missing (`Manifest.reports_tell_all`). The report of a
generation lists no names at all once it has said that nothing carries the marker; that no name is
lost by this is a fact about the pass, which then has nothing to report.
-/

namespace Stubsmith

/-! ## Reading a report -/

namespace ReportItem

/-- Whether the item is an error. -/
def isError : ReportItem → Bool
  | .error _ => true
  | _ => false

/-- Whether the item is text that is shown as it stands. -/
def isPreformatted : ReportItem → Bool
  | .preformatted _ => true
  | _ => false

/-- Whether the item is a key with its value. -/
def isKeyValue : ReportItem → Bool
  | .keyValue _ _ => true
  | _ => false

/-- Whether the item is a heading. -/
def isHeading : ReportItem → Bool
  | .heading _ => true
  | _ => false

/-- Whether the item is an entry of a list. -/
def isEntry : ReportItem → Bool
  | .listItem _ => true
  | .addedItem _ => true
  | _ => false

/-- The entries before the first heading. -/
def leadingEntries (items : List ReportItem) : List ReportItem :=
  (items.takeWhile (!·.isHeading)).filter (·.isEntry)

/-- The headings, each with the entries between it and the next one. -/
def sections : List ReportItem → List (String × List ReportItem)
  | [] => []
  | .heading title :: rest => (title, leadingEntries rest) :: sections rest
  | _ :: rest => sections rest

/-- A section that counts and lists names, if there are any. -/
def namedSection (title : String) (names : List String) : List (String × List ReportItem) :=
  if names.isEmpty then []
  else [(title ++ " (" ++ toString names.length ++ ")", names.map .listItem)]

/-- Entries before the first heading are found one part after the other. -/
theorem leadingEntries_append {xs : List ReportItem} (h : ∀ x ∈ xs, x.isHeading = false)
    (ys : List ReportItem) :
    leadingEntries (xs ++ ys) = xs.filter (·.isEntry) ++ leadingEntries ys := by
  rw [leadingEntries, List.takeWhile_append_of_pos, List.filter_append]
  · rfl
  · intro x hx
    simp [h x hx]

/-- What stands before the first heading is in no section. -/
theorem sections_append {xs : List ReportItem} (h : ∀ x ∈ xs, x.isHeading = false)
    (ys : List ReportItem) : sections (xs ++ ys) = sections ys := by
  induction xs with
  | nil => rfl
  | cons x rest ih =>
      have hx : x.isHeading = false := h x List.mem_cons_self
      have hrest := ih fun y hy => h y (List.mem_cons_of_mem x hy)
      cases x with
      | heading title => simp [isHeading] at hx
      | _ => exact hrest

/-- An entry is neither a heading nor an error. -/
theorem isHeading_isError_of_isEntry {x : ReportItem} (h : x.isEntry = true) :
    x.isHeading = false ∧ x.isError = false := by
  cases x with
  | listItem text => exact ⟨rfl, rfl⟩
  | addedItem text => exact ⟨rfl, rfl⟩
  | _ => simp [isEntry] at h

/-- The item is no part of a section. -/
def IsAside (item : ReportItem) : Prop :=
  item.isHeading = false ∧ item.isEntry = false

end ReportItem

open ReportItem

/-! ## The parts of a report -/

/-- Part of a report that adds errors and sections to those of the parts behind it. These may not
begin with entries, since that would put them into the last section of this part. -/
structure Adds (items errors : List ReportItem) (sections : List (String × List ReportItem)) :
    Prop where
  errors_eq : items.filter (·.isError) = errors
  leadingEntries_append : ∀ {ys}, leadingEntries ys = [] → leadingEntries (items ++ ys) = []
  sections_append : ∀ {ys}, leadingEntries ys = [] →
    ReportItem.sections (items ++ ys) = sections ++ ReportItem.sections ys

/-- One part behind the other adds the errors and sections of both. -/
theorem Adds.append {xs ys errors errors' : List ReportItem}
    {sections sections' : List (String × List ReportItem)} (h : Adds xs errors sections)
    (h' : Adds ys errors' sections') :
    Adds (xs ++ ys) (errors ++ errors') (sections ++ sections') where
  errors_eq := by rw [List.filter_append, h.errors_eq, h'.errors_eq]
  leadingEntries_append := by
    intro zs hzs
    rw [List.append_assoc]
    exact h.leadingEntries_append (h'.leadingEntries_append hzs)
  sections_append := by
    intro zs hzs
    rw [List.append_assoc, h.sections_append (h'.leadingEntries_append hzs),
      h'.sections_append hzs, List.append_assoc]

/-- Items aside add the errors among them. -/
theorem adds_of_isAside {items : List ReportItem} (h : ∀ x ∈ items, x.IsAside) :
    Adds items (items.filter (·.isError)) [] where
  errors_eq := rfl
  leadingEntries_append := by
    intro ys hys
    rw [ReportItem.leadingEntries_append fun x hx => (h x hx).1, hys, List.append_nil,
      List.filter_eq_nil_iff]
    intro x hx
    simp [(h x hx).2]
  sections_append := by
    intro ys _
    exact ReportItem.sections_append (fun x hx => (h x hx).1) ys

/-- Items aside that are no errors add nothing. -/
theorem adds_nothing {items : List ReportItem} (h : ∀ x ∈ items, x.IsAside ∧ x.isError = false) :
    Adds items [] [] := by
  have hadds := adds_of_isAside fun x hx => (h x hx).1
  rwa [List.filter_eq_nil_iff.mpr fun x hx => by simp [(h x hx).2]] at hadds

/-- A heading, entries and a blank line add one section. -/
theorem adds_section {entries : List ReportItem} (title : String)
    (h : ∀ x ∈ entries, x.isEntry = true) :
    Adds (.heading title :: (entries ++ [.blankLine])) [] [(title, entries)] where
  errors_eq := by
    rw [List.filter_eq_nil_iff]
    intro x hx
    rcases List.mem_cons.mp hx with rfl | hx
    · simp [isError]
    rcases List.mem_append.mp hx with hx | hx
    · simp [(isHeading_isError_of_isEntry (h x hx)).2]
    · rw [List.mem_singleton.mp hx]
      simp [isError]
  leadingEntries_append := fun _ => rfl
  sections_append := by
    intro ys hys
    have hplain : ∀ x ∈ entries ++ [.blankLine], x.isHeading = false := by
      intro x hx
      rcases List.mem_append.mp hx with hx | hx
      · exact (isHeading_isError_of_isEntry (h x hx)).1
      · rw [List.mem_singleton.mp hx]
        rfl
    rw [List.cons_append, ReportItem.sections, ReportItem.sections_append hplain,
      ReportItem.leadingEntries_append hplain, hys, List.filter_append,
      List.filter_eq_self.mpr h]
    simp [isEntry]

/-- Names add the section that counts and lists them. -/
theorem adds_ofNames (title : String) (names : List String) :
    Adds (ofNames title names) [] (namedSection title names) := by
  rw [ofNames, namedSection]
  split
  · exact adds_of_isAside (by simp)
  · apply adds_section
    intro x hx
    obtain ⟨name, _, rfl⟩ := List.mem_map.mp hx
    rfl

/-- Names are shown by headings, list items and blank lines only. -/
theorem filter_ofNames {p : ReportItem → Bool} (hheading : ∀ text, p (.heading text) = false)
    (hitem : ∀ text, p (.listItem text) = false) (hblank : p .blankLine = false) (title : String)
    (names : List String) : (ofNames title names).filter p = [] := by
  rw [ofNames]
  split
  · rfl
  · simp [hheading, hitem, hblank]

/-! ## Diagnostics -/

/-- The diagnostic is an error at some location. -/
def Diagnostic.IsLocatedError (d : Diagnostic) : Prop :=
  d.severity = .error ∧ d.location.isSome = true

/-- A located error as it is told: its message, and its location on a line of its own. -/
def Diagnostic.told (d : Diagnostic) : ReportItem :=
  .error (d.message ++ "\n  --> " ++ d.location.getD "")

theorem Diagnostic.IsLocatedError.ofDiagnostic_eq {d : Diagnostic} (h : d.IsLocatedError) :
    ofDiagnostic d = d.told := by
  obtain ⟨severity, phase, message, location⟩ := d
  obtain ⟨hseverity, hlocation⟩ := h
  obtain ⟨symbol, rfl⟩ := Option.isSome_iff_exists.mp hlocation
  cases hseverity
  rfl

/-- Located errors are shown by one error each and a blank line. -/
theorem ReportItem.ofDiagnostics_eq {ds : List Diagnostic} (h : ∀ d ∈ ds, d.IsLocatedError) :
    ofDiagnostics ds = ds.map (·.told) ++ (if ds.isEmpty then [] else [blankLine]) := by
  rw [ofDiagnostics, List.map_congr_left fun d hd => (h d hd).ofDiagnostic_eq]

/-- Located errors add one error each. -/
theorem adds_ofDiagnostics {ds : List Diagnostic} (h : ∀ d ∈ ds, d.IsLocatedError) :
    Adds (ofDiagnostics ds) (ds.map (·.told)) [] := by
  have hitems : ∀ x ∈ ds.map (·.told), x.isError = true ∧ x.IsAside := by
    intro x hx
    obtain ⟨d, _, rfl⟩ := List.mem_map.mp hx
    exact ⟨rfl, rfl, rfl⟩
  have htold := adds_of_isAside fun x hx => (hitems x hx).2
  rw [List.filter_eq_self.mpr fun x hx => (hitems x hx).1] at htold
  have hblank : Adds (if ds.isEmpty then [] else [.blankLine]) [] [] := by
    split
    · exact adds_of_isAside (by simp)
    · exact adds_of_isAside (by simp [IsAside, isHeading, isEntry])
  rw [ofDiagnostics_eq h]
  simpa using htold.append hblank

/-- Located errors are shown by errors and a blank line only. -/
theorem filter_ofDiagnostics {p : ReportItem → Bool} (herror : ∀ text, p (.error text) = false)
    (hblank : p .blankLine = false) {ds : List Diagnostic} (h : ∀ d ∈ ds, d.IsLocatedError) :
    (ofDiagnostics ds).filter p = [] := by
  have htold : (ds.map (·.told)).filter p = [] := by
    rw [List.filter_eq_nil_iff]
    intro x hx
    obtain ⟨d, _, rfl⟩ := List.mem_map.mp hx
    simp [Diagnostic.told, herror]
  rw [ofDiagnostics_eq h, List.filter_append, htold]
  split
  · rfl
  · simp [hblank]

/-! ## Whole reports -/

/-- The sections of what every pass finds: the failed and the deferred declarations. -/
def Findings.sections (f : Findings) : List (String × List ReportItem) :=
  namedSection "Failed" f.failed ++ namedSection "Deferred" f.deferred

/-- The report tells every diagnostic by one error with its message and location. Its sections are
`first` and those of the failed and the deferred declarations, and no entry stands before them. -/
structure Tells (items : List ReportItem) (first : List (String × List ReportItem))
    (f : Findings) : Prop where
  located : ∀ d ∈ f.diagnostics, d.location.isSome = true
  errors : items.filter (·.isError)
    = f.diagnostics.map fun d => .error (d.message ++ "\n  --> " ++ d.location.getD "")
  leadingEntries : leadingEntries items = []
  sections : sections items = first ++ f.sections

/-- A report tells what its parts add. -/
theorem Adds.tells {items : List ReportItem} {first : List (String × List ReportItem)}
    {f : Findings} (hlocated : ∀ d ∈ f.diagnostics, d.IsLocatedError)
    (h : Adds items (f.diagnostics.map (·.told)) (first ++ f.sections)) : Tells items first f where
  located := fun d hd => (hlocated d hd).2
  errors := h.errors_eq
  leadingEntries := by
    have hend : leadingEntries (items ++ []) = [] := h.leadingEntries_append rfl
    rwa [List.append_nil] at hend
  sections := by
    have hend : sections (items ++ []) = first ++ f.sections ++ sections [] :=
      h.sections_append rfl
    rwa [List.append_nil, sections, List.append_nil] at hend

namespace CheckVerdict

/-- The verdict of a check tells what was found. -/
theorem items_tells {r : CheckVerdict} (h : ∀ d ∈ r.diagnostics, d.IsLocatedError) :
    Tells r.items [] r.findings := by
  have hlast : Adds (if r.isValid then [.preformatted r.validLine] else []) [] [] := by
    split
    · exact adds_of_isAside (by simp [IsAside, isHeading, isEntry])
    · exact adds_of_isAside (by simp)
  have hparts := (((adds_ofDiagnostics h).append (adds_ofNames "Failed" r.failed)).append
    (adds_ofNames "Deferred" r.deferred)).append hlast
  apply Adds.tells (f := r.findings) h
  simp only [List.append_nil, List.nil_append] at hparts
  exact hparts

/-- All is well exactly if there is nothing to report. -/
theorem isValid_iff {r : CheckVerdict} (h : ∀ d ∈ r.diagnostics, d.IsLocatedError) :
    r.isValid = true ↔ r.diagnostics = [] := by
  rw [isValid, Bool.not_eq_true', List.any_eq_false]
  constructor
  · intro hnone
    apply List.eq_nil_iff_forall_not_mem.mpr
    intro d hd
    apply hnone d hd
    rw [Diagnostic.isError, (h d hd).1]
    rfl
  · intro hnil
    simp [hnil]

/-- The only text that stands as it is says that all is well. -/
theorem filter_isPreformatted_items {r : CheckVerdict} (h : ∀ d ∈ r.diagnostics, d.IsLocatedError) :
    r.items.filter (·.isPreformatted)
      = if r.isValid then [.preformatted r.validLine] else [] := by
  rw [items, List.filter_append, List.filter_append, List.filter_append,
    filter_ofDiagnostics (fun _ => rfl) rfl h, filter_ofNames (fun _ => rfl) (fun _ => rfl) rfl,
    filter_ofNames (fun _ => rfl) (fun _ => rfl) rfl]
  split
  · rfl
  · rfl

end CheckVerdict

namespace GenerationReport

variable {r : GenerationReport}

/-- A preview tells what was found. -/
theorem previewItems_tells (files : List PlannedFile) (h : ∀ d ∈ r.diagnostics, d.IsLocatedError) :
    Tells (r.previewItems files) [] r.findings := by
  have hshown : Adds (files.flatMap
      fun file => [.divider file.path.text, .preformatted file.content]) [] [] := by
    apply adds_nothing
    intro x hx
    obtain ⟨file, _, hx⟩ := List.mem_flatMap.mp hx
    simp only [List.mem_cons, List.not_mem_nil, or_false] at hx
    rcases hx with rfl | rfl
    · exact ⟨⟨rfl, rfl⟩, rfl⟩
    · exact ⟨⟨rfl, rfl⟩, rfl⟩
  have hlast : ∀ text, Adds [.divider "Summary", .preformatted text] [] [] :=
    fun text => adds_of_isAside (by simp [IsAside, isHeading, isEntry])
  have hparts := ((((adds_ofDiagnostics h).append hshown).append
    (adds_ofNames "Failed" r.failed)).append (adds_ofNames "Deferred" r.deferred)).append
      (hlast (toString r.functions.length ++ " functions would be generated"))
  apply Adds.tells (f := r.findings) h
  simp only [List.append_nil, List.nil_append] at hparts
  exact hparts

/-- The section of the functions that were written. -/
def functionSection (r : GenerationReport) : String × List ReportItem :=
  ("Functions (" ++ toString r.functions.length ++ ")", r.functions.map .addedItem)

/-- With files written, the report of a generation tells what was found behind the functions. -/
theorem writtenItems_tells {files : List Path} (hfiles : files ≠ [])
    (h : ∀ d ∈ r.diagnostics, d.IsLocatedError) :
    Tells (r.writtenItems files) [r.functionSection] r.findings := by
  have hfunctions : Adds (.heading ("Functions (" ++ toString r.functions.length ++ ")")
      :: (r.functions.map .addedItem ++ [.blankLine])) [] [r.functionSection] := by
    apply adds_section
    intro x hx
    obtain ⟨name, _, rfl⟩ := List.mem_map.mp hx
    rfl
  have hlast : Adds (files.map fun file => .keyValue "Generated" file.text) [] [] := by
    apply adds_nothing
    intro x hx
    obtain ⟨file, _, rfl⟩ := List.mem_map.mp hx
    exact ⟨⟨rfl, rfl⟩, rfl⟩
  have hparts := (adds_ofDiagnostics h).append (((hfunctions.append
    (adds_ofNames "Failed" r.failed)).append (adds_ofNames "Deferred" r.deferred)).append hlast)
  apply Adds.tells (f := r.findings) h
  rw [writtenItems, if_neg (by simpa using hfiles)]
  simp only [List.append_nil, List.nil_append] at hparts
  exact hparts

/-- With files written, no text stands as it is, and the paths are the only values. -/
theorem filter_writtenItems {files : List Path} (hfiles : files ≠ [])
    (h : ∀ d ∈ r.diagnostics, d.IsLocatedError) :
    (r.writtenItems files).filter (·.isPreformatted) = [] ∧
      (r.writtenItems files).filter (·.isKeyValue)
        = files.map fun file => .keyValue "Generated" file.text := by
  have hparts : ∀ p : ReportItem → Bool, (∀ text, p (.heading text) = false) →
      (∀ text, p (.listItem text) = false) → (∀ text, p (.addedItem text) = false) →
      (∀ text, p (.error text) = false) → p .blankLine = false →
      (r.writtenItems files).filter p
        = (files.map fun file => ReportItem.keyValue "Generated" file.text).filter p := by
    intro p hheading hitem hadded herror hblank
    rw [writtenItems, if_neg (by simpa using hfiles), List.filter_append,
      filter_ofDiagnostics herror hblank h, List.filter_cons_of_neg (by simp [hheading]),
      List.filter_append, List.filter_append, List.filter_append, List.filter_append,
      filter_ofNames hheading hitem hblank, filter_ofNames hheading hitem hblank]
    simp [hadded, hblank]
  refine ⟨?_, ?_⟩
  · rw [hparts _ (fun _ => rfl) (fun _ => rfl) (fun _ => rfl) (fun _ => rfl) rfl]
    simp [isPreformatted]
  · rw [hparts _ (fun _ => rfl) (fun _ => rfl) (fun _ => rfl) (fun _ => rfl) rfl]
    simp [isKeyValue]

end GenerationReport

/-! ## What the three operations report -/

namespace Manifest

variable (m : Manifest)

/-- Some declaration carries the marker. -/
def IsMarked : Prop :=
  ∃ decl ∈ m.declarations, ∃ a ∈ decl.annotations, a.name = m.configuration.marker

theorem selected_ne_nil_iff : m.selected ≠ [] ↔ m.IsMarked :=
  selection_ne_nil_iff m.declarations m.configuration.marker

/-- A pass reports errors only, and each of them at a location. -/
theorem isLocatedError_of_mem_findings {d : Diagnostic} (hd : d ∈ m.findings.diagnostics) :
    d.IsLocatedError := by
  have hmem : d ∈ passDiagnostics m.configuration m.selected := hd
  rw [passDiagnostics_eq_flatMap_report] at hmem
  obtain ⟨decl, _, hreport⟩ := List.mem_flatMap.mp hmem
  obtain ⟨hseverity, hlocation⟩ := Declaration.severity_location_of_mem_report hreport
  refine ⟨hseverity, ?_⟩
  rcases hlocation with hlocation | ⟨p, _, hlocation⟩
  · rw [hlocation]
    rfl
  · rw [hlocation]
    rfl

/-- So does a report that holds what the pass found. -/
theorem isLocatedError_of_findings_eq {f : Findings} (h : f = m.findings) :
    ∀ d ∈ f.diagnostics, d.IsLocatedError := by
  subst h
  exact fun d hd => m.isLocatedError_of_mem_findings hd

/-- There is something to report exactly if a declaration failed. -/
theorem diagnostics_findings_eq_nil_iff :
    m.findings.diagnostics = [] ↔ m.findings.failed = [] := by
  show passDiagnostics m.configuration m.selected = [] ↔
    (failing m.configuration m.selected).map (·.name) = []
  rw [List.map_eq_nil_iff, passDiagnostics, List.flatMap_eq_nil_iff, failing,
    List.filter_eq_nil_iff]
  simp [Declaration.diagnostics]

/-- If nothing is selected, nothing is found. -/
theorem findings_of_selected_eq_nil (h : m.selected = []) : m.findings = ⟨[], [], [], []⟩ := by
  rw [findings, h]
  rfl

/-- A generation has a report only if what was handed on could be written. -/
theorem written_of_generate_eq_ok {base : Path} {disk : Disk} {generated : GenerationReport}
    (h : (m.generate base disk).2 = .ok generated) :
    ∀ call ∈ m.writeCalls base disk, call.outcome = .ok () := by
  intro call hcall
  rw [writeCalls_eq] at hcall
  split at hcall
  · simp at hcall
  next hselected =>
  rw [List.mem_singleton.mp hcall]
  cases houtcome : (m.passCall base disk).outcome with
  | ok u => rfl
  | error fault =>
      rw [generate] at h
      simp only [runPass_eq_recordedPass, PassResult.mapStore,
        m.recordedPass_of_selected_ne_nil base disk (by simpa using hselected), houtcome] at h
      cases h

/-- The report of a generation names the marker of the manifest. -/
theorem marker_of_generate_eq_ok {base : Path} {disk : Disk} {generated : GenerationReport}
    (h : (m.generate base disk).2 = .ok generated) :
    generated.marker = m.configuration.marker := by
  rw [generate] at h
  simp only at h
  split at h
  · cases h
  · cases h
    rfl

/-- A check tells what the pass found, and that all is well exactly if no declaration failed. -/
theorem exists_check_tells (configPath : Path) :
    ∃ verdict, m.check configPath = .ok verdict ∧
      verdict.findings = m.findings ∧
      Tells verdict.items [] m.findings ∧
      verdict.items.filter (·.isPreformatted)
        = if m.findings.failed = [] then [.preformatted verdict.validLine] else [] := by
  obtain ⟨verdict, hcheck, hfindings⟩ := m.exists_check_eq_ok configPath
  have hlocated := m.isLocatedError_of_findings_eq hfindings
  have htells := CheckVerdict.items_tells hlocated
  rw [hfindings] at htells
  have hvalid : verdict.isValid = true ↔ m.findings.failed = [] := by
    rw [verdict.isValid_iff hlocated, ← diagnostics_findings_eq_nil_iff, ← hfindings]
    rfl
  refine ⟨verdict, hcheck, hfindings, htells, ?_⟩
  rw [CheckVerdict.filter_isPreformatted_items hlocated]
  simp only [hvalid]

/-- A preview tells what the pass found. -/
theorem exists_preview_tells (base : Path) (disk : Disk) :
    ∃ previewed, m.preview base = .ok previewed ∧
      previewed.findings = m.findings ∧
      Tells previewed.items [] m.findings := by
  obtain ⟨previewed, hpreview, hfindings, hresult⟩ := m.exists_preview_eq_ok base disk
  refine ⟨previewed, hpreview, hfindings, ?_⟩
  rw [GenerationReport.items, hresult, ← hfindings]
  exact GenerationReport.previewItems_tells _ (m.isLocatedError_of_findings_eq hfindings)

section

variable {base : Path} {disk : Disk} {generated : GenerationReport}

/-- The report of a generation holds what the pass found and the paths of what was written. -/
theorem of_generate_eq_ok (h : (m.generate base disk).2 = .ok generated) :
    generated.findings = m.findings ∧
      generated.result = .written ((m.writeCalls base disk).map (·.path)) := by
  obtain ⟨report, hreport, hfindings, hresult⟩ :=
    m.exists_generate_eq_ok base disk (m.written_of_generate_eq_ok h)
  rw [hreport] at h
  cases h
  exact ⟨hfindings, hresult⟩

/-- With something marked, the report of a generation tells what the pass found behind the
functions, and every path that was written. -/
theorem generated_tells_of_isMarked (h : (m.generate base disk).2 = .ok generated)
    (hmarked : m.IsMarked) :
    Tells generated.items [generated.functionSection] m.findings ∧
      generated.items.filter (·.isKeyValue)
        = ((m.writeCalls base disk).map (·.path)).map
            (fun file => .keyValue "Generated" file.text) ∧
      generated.items.filter (·.isPreformatted) = [] := by
  obtain ⟨hfindings, hresult⟩ := m.of_generate_eq_ok h
  have hlocated := m.isLocatedError_of_findings_eq hfindings
  have hfiles : (m.writeCalls base disk).map (·.path) ≠ [] := by
    rw [m.writeCalls_eq, if_neg (by simpa using m.selected_ne_nil_iff.mpr hmarked)]
    simp
  obtain ⟨hpreformatted, hvalues⟩ := GenerationReport.filter_writtenItems hfiles hlocated
  rw [GenerationReport.items, hresult, ← hfindings]
  exact ⟨GenerationReport.writtenItems_tells hfiles hlocated, hvalues, hpreformatted⟩

/-- With nothing marked nothing was found or written, and no more is said than that. -/
theorem generated_of_not_isMarked (h : (m.generate base disk).2 = .ok generated)
    (hmarked : ¬ m.IsMarked) :
    (m.writeCalls base disk).map (·.path) = [] ∧ m.findings = ⟨[], [], [], []⟩ ∧
      generated.items
        = [.preformatted ("No declarations annotated with @" ++ m.configuration.marker)] := by
  obtain ⟨hfindings, hresult⟩ := m.of_generate_eq_ok h
  have hselected : m.selected = [] := by
    rw [← selected_ne_nil_iff, ne_eq, not_not] at hmarked
    exact hmarked
  have hnothing := m.findings_of_selected_eq_nil hselected
  have hdiagnostics : generated.diagnostics = [] :=
    congrArg Findings.diagnostics (hfindings.trans hnothing)
  have hcalls : (m.writeCalls base disk).map (·.path) = [] := by
    rw [m.writeCalls_eq, hselected]
    rfl
  refine ⟨hcalls, hnothing, ?_⟩
  rw [GenerationReport.items, hresult, hcalls]
  show generated.writtenItems [] = _
  rw [GenerationReport.writtenItems, hdiagnostics, m.marker_of_generate_eq_ok h]
  rfl

end

/-- **Reports hide nothing.** A check and a preview always have a report, and a generation has one
if its file can be written. Every one of them holds what the pass of the manifest found, and tells
all of it. The verdict of a check says that all is well exactly if no declaration failed. The report
of a generation lists the functions and every path that was written, unless nothing carries the
marker: then nothing was found, and it says no more than that. -/
theorem reports_tell_all (base configPath : Path) (disk : Disk) :
    (∃ verdict, m.check configPath = .ok verdict ∧
      verdict.findings = m.findings ∧
      Tells verdict.items [] m.findings ∧
      verdict.items.filter (·.isPreformatted)
        = if m.findings.failed = [] then [.preformatted verdict.validLine] else []) ∧
    (∃ previewed, m.preview base = .ok previewed ∧
      previewed.findings = m.findings ∧
      Tells previewed.items [] m.findings) ∧
    ∀ generated, (m.generate base disk).2 = .ok generated →
      generated.findings = m.findings ∧
      ∃ files, generated.result = .written files ∧
        files = (m.writeCalls base disk).map (·.path) ∧
        (m.IsMarked →
          Tells generated.items [generated.functionSection] m.findings ∧
          generated.items.filter (·.isKeyValue)
            = (files.map fun file => .keyValue "Generated" file.text) ∧
          generated.items.filter (·.isPreformatted) = []) ∧
        (¬ m.IsMarked →
          files = [] ∧ m.findings = ⟨[], [], [], []⟩ ∧
          generated.items
            = [.preformatted ("No declarations annotated with @" ++ m.configuration.marker)]) := by
  refine ⟨m.exists_check_tells configPath, m.exists_preview_tells base disk, ?_⟩
  intro generated hgenerate
  obtain ⟨hfindings, hresult⟩ := m.of_generate_eq_ok hgenerate
  exact ⟨hfindings, _, hresult, rfl, m.generated_tells_of_isMarked hgenerate,
    m.generated_of_not_isMarked hgenerate⟩

end Manifest

/-- What is reported of `mixedManifest`, when it is checked, previewed, and generated to an empty
disk: five errors, the four failed declarations and the deferred one, and behind the generation the
one function. Of a manifest without declarations it is said that all is well, or that nothing
carries the marker. -/
theorem mixedManifest_report :
    let found : List (String × List ReportItem) :=
      [("Failed (4)", [.listItem "org.example.A", .listItem "org.example.B",
          .listItem "org.example.E", .listItem "org.example.F"]),
        ("Deferred (1)", [.listItem "org.example.D"])]
    (∃ verdict, mixedManifest.check (.ofText "fungen.toml") = .ok verdict ∧
      (verdict.items.filter (·.isError)).length = 5 ∧
      ReportItem.sections verdict.items = found ∧
      verdict.items.filter (·.isPreformatted) = []) ∧
    (∃ previewed, mixedManifest.preview (.ofText "out") = .ok previewed ∧
      (previewed.items.filter (·.isError)).length = 5 ∧
      ReportItem.sections previewed.items = found) ∧
    (∃ generated, (mixedManifest.generate (.ofText "out") {}).2 = .ok generated ∧
      mixedManifest.IsMarked ∧
      (generated.items.filter (·.isError)).length = 5 ∧
      ReportItem.sections generated.items = ("Functions (1)", [.addedItem "servus"]) :: found) ∧
    (∃ verdict, ({} : Manifest).check (.ofText "fungen.toml") = .ok verdict ∧
      verdict.items.filter (·.isPreformatted)
        = [.preformatted "✓ fungen.toml is valid (0 functions)"]) ∧
    ∃ generated, (({} : Manifest).generate (.ofText "out") {}).2 = .ok generated ∧
      ¬ ({} : Manifest).IsMarked ∧
      generated.items = [.preformatted "No declarations annotated with @org.example.Function"] := by
  intro found
  obtain ⟨⟨verdict, hcheck, _, hverdict, hlines⟩, ⟨previewed, hpreview, _, hpreviewed⟩, htold⟩ :=
    mixedManifest.reports_tell_all (.ofText "out") (.ofText "fungen.toml") {}
  have herrors : mixedManifest.findings.diagnostics.length = 5 := by decide
  have hsections : mixedManifest.findings.sections = found := by decide
  refine ⟨⟨verdict, hcheck, ?_, ?_, ?_⟩, ⟨previewed, hpreview, ?_, ?_⟩, ?_, ?_, ?_⟩
  · rw [hverdict.errors, List.length_map, herrors]
  · rw [hverdict.sections, List.nil_append, hsections]
  · rw [hlines, if_neg (by decide)]
  · rw [hpreviewed.errors, List.length_map, herrors]
  · rw [hpreviewed.sections, List.nil_append, hsections]
  · have hwritten : ∀ call ∈ mixedManifest.writeCalls (.ofText "out") {},
        call.outcome = .ok () := by
      rw [Manifest.writeCalls_eq]
      decide
    have hmarked : mixedManifest.IsMarked :=
      mixedManifest.selected_ne_nil_iff.mp (by decide)
    obtain ⟨generated, hgenerate, _⟩ :=
      mixedManifest.exists_generate_eq_ok (.ofText "out") {} hwritten
    have hok : (mixedManifest.generate (.ofText "out") {}).2 = .ok generated := by rw [hgenerate]
    obtain ⟨hfindings, _, _, _, hmarkedTold, _⟩ := htold generated hok
    obtain ⟨htells, _, _⟩ := hmarkedTold hmarked
    have hfunctions : generated.functions = mixedManifest.findings.functions :=
      congrArg Findings.functions hfindings
    refine ⟨generated, hok, hmarked, ?_, ?_⟩
    · rw [htells.errors, List.length_map, herrors]
    · rw [htells.sections, GenerationReport.functionSection, hfunctions, hsections]
      decide
  · obtain ⟨⟨verdict, hcheck, _, _, hlines⟩, _⟩ :=
      ({} : Manifest).reports_tell_all (.ofText "out") (.ofText "fungen.toml") {}
    refine ⟨verdict, hcheck, ?_⟩
    cases hcheck
    rw [hlines]
    decide
  · have hmarked : ¬ ({} : Manifest).IsMarked := by
      rintro ⟨decl, hdecl, _⟩
      exact List.not_mem_nil hdecl
    obtain ⟨_, _, _, _, _, hnothing⟩ := (({} : Manifest).reports_tell_all (.ofText "out")
      (.ofText "fungen.toml") {}).2.2 _ rfl
    exact ⟨_, rfl, hmarked, (hnothing hmarked).2.2⟩

end Stubsmith
