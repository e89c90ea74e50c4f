import Chronogram.Proofs.CommandLine.Delivery
import Chronogram.Proofs.CommandLine.Paths
import Chronogram.Proofs.Svg.Writing

/-!
Images next to their inputs.

Without a destination an image is written beside the file that it is made of, with another
extension. The file itself is left as it was, unless it has that extension already: then the image
takes its place.
-/

namespace Chronogram.CommandLine

namespace Options

variable {options : Options}

/-- Whether an image is asked for. -/
def Paints (options : Options) : Prop :=
  options.command = .render ∧ options.format = .png

theorem paints_of_goesTo_file {path : String} (undirected : options.out = none)
    (goes : options.GoesTo (.file path)) : options.Paints ∧ path = imagePath options.input := by
  cases goes with
  | documentFile _ _ _ out | imageFile _ _ _ out =>
      rw [undirected] at out
      cases out
  | imageBeside path command format _ input named =>
      rw [input, imagePath_of_named named]
      exact ⟨⟨command, format⟩, rfl⟩
  | imageHere command format _ unnamed =>
      rw [imagePath_of_unnamed unnamed]
      exact ⟨⟨command, format⟩, rfl⟩

theorem not_paints_of_goesTo_standardOutput (undirected : options.out = none)
    (goes : options.GoesTo .standardOutput) : ¬ options.Paints := by
  rintro ⟨command, format⟩
  cases goes with
  | report isReport => exact isReport command
  | document _ isDocument => cases format.symm.trans isDocument
  | image _ _ out =>
      rw [undirected] at out
      cases out

theorem Paints.image_of_makes {Image : Type} {paint : Raster.Painter Image} {text : String}
    {product : Artifact Image} (paints : options.Paints) (made : options.Makes paint text product) :
    ∃ image, product = .image image := by
  obtain ⟨command, format⟩ := paints
  cases made with
  | image => exact ⟨_, rfl⟩
  | document _ other => cases format.symm.trans other
  | draft other | timeline other | page other => cases command.symm.trans other

/-- An image that is made is the result of the session. -/
theorem Paints.result_session {Image : Type} {paint : Raster.Painter Image} {text document : String}
    {image : Image} (paints : options.Paints)
    (drawn : options.compilation.svg text = .ok document)
    (painted : paint ⟨options.scale, options.background⟩ document = .ok image) :
    (options.session paint text).result = .ok ⟨options.imageDestination, .image image⟩ := by
  obtain ⟨command, format⟩ := paints
  have answers := options.answers_session paint text
  generalize (options.session paint text).result = result at answers ⊢
  cases answers with
  | missed missed => exact absurd missed ((Makes.image command format drawn painted).not_misses _)
  | made made goes =>
      obtain rfl := (goesTo_image_iff command format).mp goes
      cases made with
      | document _ other => cases format.symm.trans other
      | draft other | timeline other | page other => cases command.symm.trans other
      | image _ _ drawn' painted' =>
          obtain rfl := Except.ok.inj (drawn.symm.trans drawn')
          obtain rfl := Except.ok.inj (painted.symm.trans painted')
          rfl

end Options

namespace World

variable {world : World}

theorem locate_of_gives {path text : String} (named : path ≠ "-")
    (given : world.Gives (some path) text) :
    ∃ place, world.files.locate path = .ok place ∧ world.files.get? place = some text := by
  cases given with
  | standardInput unnamed =>
      rcases unnamed with missing | dash
      · cases missing
      · exact absurd (Option.some.inj dash) named
  | file _ located _ here => exact ⟨_, located, here⟩

/-! ### Images that are made -/

/-- The characters of a document that stands alone. -/
def pageChars (page : Page Float) : List Char :=
  (Svg.tokenPieces (Svg.document none page)).flatMap (Svg.Piece.chars page.scale)

theorem toList_writePage (page : Page Float) :
    (Settings.standard.writePage page).toList = pageChars page := by
  change (Svg.writeTokens page.scale (Svg.document none page)).toList = _
  rw [Svg.writeTokens_eq, Svg.toList_writePieces]
  rfl

def unscaledPixels (length : Float32) : Nat :=
  Raster.pixels ((Number.Value.ofSingle length).times Number.Format.single Raster.unitScale)

def imagePixels? (text : String) : Option (Nat × Nat) :=
  (Settings.standard.page text).toOption.bind fun page =>
    (Picture.sizeWith? Picture.imageSize? (pageChars page)).map fun size =>
      (unscaledPixels size.width, unscaledPixels size.height)

/-- The size of an image is read off the characters of its document. -/
theorem painted_of_pixels {text : String} {width height : Nat}
    (pixels : imagePixels? text = some (width, height))
    (fits : max width height ≤ Raster.greatestCanvasSide) :
    ∃ document, Settings.standard.svg text = .ok document ∧
      Raster.emptyPainter ⟨Raster.unitScale, none⟩ document =
        .ok ⟨width, height, .transparent⟩ := by
  unfold imagePixels? at pixels
  unfold Settings.svg
  cases drawn : Settings.standard.page text with
  | error fault =>
      rw [drawn] at pixels
      cases pixels
  | ok page =>
      rw [drawn] at pixels
      obtain ⟨size, measured, sides⟩ := Option.map_eq_some_iff.mp pixels
      obtain ⟨rfl, rfl⟩ := Prod.mk.inj sides
      have found : Picture.size? (Settings.standard.writePage page) = some size := by
        rw [Picture.size?, toList_writePage, measured]
      have canvas : Raster.canvas ⟨Raster.unitScale, none⟩ (Settings.standard.writePage page) =
          .ok ⟨unscaledPixels size.width, unscaledPixels size.height, .transparent⟩ := by
        simp only [Raster.canvas, Raster.backgroundOf, found]
        exact if_neg (Nat.not_lt.mpr fits)
      refine ⟨_, rfl, ?_⟩
      rw [Raster.emptyPainter, canvas]
      rfl

theorem run_of_pixels {world : World} {name text : String} {width height : Nat} {target : Place}
    (pixels : imagePixels? text = some (width, height))
    (fits : max width height ≤ Raster.greatestCanvasSide)
    (read : Options.read? ["--format", "png", name] =
      some { Options.standard with format := .png, input := some name })
    (opened : world.read (some name) = .ok text)
    (found : world.files.target (Options.imagePath (some name)) = .ok target) :
    (world.run ["--format", "png", name]).code = 0 ∧
      (world.run ["--format", "png", name]).written =
        [(target, .image ⟨width, height, .transparent⟩)] := by
  obtain ⟨document, drawn, painted⟩ := painted_of_pixels pixels fits
  have paints : Options.Paints { Options.standard with format := .png, input := some name } :=
    ⟨rfl, rfl⟩
  have result := paints.result_session drawn painted
  rw [Options.imageDestination_of_undirected rfl] at result
  rw [run, runWith_written read opened result found]
  exact ⟨rfl, rfl⟩

def sketch : String :=
  "lifeline \"A\"\nT0 \"A\" 0\n"

theorem imagePixels?_sketch : imagePixels? sketch = some (252, 185) := by
  decide +kernel

/-- A world with nothing but the lifeline, under one name in the root. -/
def sketched (name : String) : World :=
  ⟨⟨[([name.toList], sketch)], [], []⟩, some ""⟩

/-! ### Where images go -/

/-- A run without a destination writes nothing but an image, beside the file that it is made of. So
it changes that file exactly if it makes an image of a file whose name ends in the extension of
images. -/
theorem images_go_beside_sources {arguments : List String} {options : Options} {path : String}
    (read : Options.read? arguments = some options) (undirected : options.out = none)
    (given : options.input = some path) (named : path ≠ "-")
    (succeeds : (world.run arguments).code = 0) :
    ∃ source text, world.files.locate path = .ok source ∧ world.files.get? source = some text ∧
      (¬ options.Paints → (world.run arguments).written = []) ∧
      (options.Paints → ∃ target canvas, (world.run arguments).written = [(target, .image canvas)] ∧
        world.files.Beside path "png" source target) ∧
      (source ∈ (world.run arguments).written.map Prod.fst ↔ options.Paints ∧
        ∃ directory base, base ≠ [] ∧ source = directory ++ [base ++ ".png".toList]) := by
  have delivers : ∃ product, world.Delivers Raster.emptyPainter options product
      (world.run arguments).written := by
    rcases world.runWith_cases Raster.emptyPainter read with
      ⟨message, fails⟩ | ⟨product, log, written, delivers, outcome⟩
    · obtain ⟨log, failed⟩ := runWith_of_fails read fails
      rw [run, failed] at succeeds
      exact absurd succeeds one_ne_zero
    · rw [run, outcome]
      exact ⟨product, delivers⟩
  obtain ⟨printed, delivers⟩ := delivers
  generalize (world.run arguments).written = entries at delivers ⊢
  cases delivers with
  | printed text product opened made goes =>
      rw [given] at opened
      obtain ⟨source, located, kept⟩ := locate_of_gives named opened
      have unpainted := Options.not_paints_of_goesTo_standardOutput undirected goes
      refine ⟨source, text, located, kept, fun _ => rfl, fun paints => absurd paints unpainted, ?_⟩
      exact iff_of_false List.not_mem_nil fun ⟨paints, _⟩ => unpainted paints
  | written text path' product place opened made goes admits =>
      have found := target_eq_ok_iff.mpr admits
      obtain ⟨paints, rfl⟩ := Options.paints_of_goesTo_file undirected goes
      obtain ⟨canvas, rfl⟩ := paints.image_of_makes made
      rw [given] at opened found
      obtain ⟨source, located, kept⟩ := locate_of_gives named opened
      rw [Options.imagePath, if_neg named] at found
      have beside := Files.beside_of_target (by decide) (by decide) located found
      refine ⟨source, text, located, kept, fun unpainted => absurd paints unpainted,
        fun _ => ⟨place, canvas, rfl, beside⟩, ?_⟩
      rw [List.map_singleton, List.mem_singleton, eq_comm, beside.eq_iff (by decide)]
      exact ⟨fun pictured => ⟨paints, pictured⟩, And.right⟩

/-- The image of a file with another extension leaves the file alone. -/
theorem sketch_is_kept :
    ∃ options source text,
      Options.read? ["--format", "png", "x.tick"] = some options ∧ options.out = none ∧
      options.input = some "x.tick" ∧ options.Paints ∧
      ((sketched "x.tick").run ["--format", "png", "x.tick"]).code = 0 ∧
      (sketched "x.tick").files.locate "x.tick" = .ok source ∧
      (sketched "x.tick").files.get? source = some text ∧
      (∃ target canvas,
        ((sketched "x.tick").run ["--format", "png", "x.tick"]).written =
          [(target, .image canvas)] ∧
        (sketched "x.tick").files.Beside "x.tick" "png" source target) ∧
      source ∉ ((sketched "x.tick").run ["--format", "png", "x.tick"]).written.map Prod.fst := by
  have read : Options.read? ["--format", "png", "x.tick"] =
      some { Options.standard with format := .png, input := some "x.tick" } := by decide +kernel
  have target : (sketched "x.tick").files.target (Options.imagePath (some "x.tick")) =
      .ok ["x.png".toList] := by decide +kernel
  have opened : (sketched "x.tick").read (some "x.tick") = .ok sketch := by decide +kernel
  obtain ⟨succeeds, written⟩ :=
    run_of_pixels imagePixels?_sketch (by decide) read opened target
  obtain ⟨source, text, located, kept, -, beside, -⟩ :=
    images_go_beside_sources read rfl rfl (by decide) succeeds
  have here : (sketched "x.tick").files.locate "x.tick" = .ok ["x.tick".toList] := by decide +kernel
  refine ⟨_, source, text, read, rfl, rfl, ⟨rfl, rfl⟩, succeeds, located, kept,
    beside ⟨rfl, rfl⟩, ?_⟩
  obtain rfl := Except.ok.inj (here.symm.trans located)
  rw [written]
  decide

/-- The image of a file that is named as an image takes its place. -/
theorem image_replaces_source :
    (∃ options, Options.read? ["--format", "png", "x.png"] = some options ∧ options.out = none) ∧
    (sketched "x.png").files.locate "x.png" = .ok ["x.png".toList] ∧
    (sketched "x.png").files.get? ["x.png".toList] = some sketch ∧
    ((sketched "x.png").run ["--format", "png", "x.png"]).code = 0 ∧
    ((sketched "x.png").run ["--format", "png", "x.png"]).written =
      [(["x.png".toList], .image ⟨252, 185, .transparent⟩)] := by
  have read : Options.read? ["--format", "png", "x.png"] =
      some { Options.standard with format := .png, input := some "x.png" } := by decide +kernel
  have target : (sketched "x.png").files.target (Options.imagePath (some "x.png")) =
      .ok ["x.png".toList] := by decide +kernel
  have opened : (sketched "x.png").read (some "x.png") = .ok sketch := by decide +kernel
  refine ⟨⟨_, read, rfl⟩, by decide +kernel, by decide +kernel, ?_⟩
  exact run_of_pixels imagePixels?_sketch (by decide) read opened target

end World

end Chronogram.CommandLine
