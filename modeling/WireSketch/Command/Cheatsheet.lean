/-! The quick reference that the command prints. -/
namespace WireSketch.Command

def cheatsheetLines : List String := [
  "# bytefield quick reference",
  "",
  "Diagram scripts use Python expression syntax: calls, literals, variables,",
  "`if`, and `for` loops over finite values. There is no attribute access,",
  "`while`, `def`, `lambda` or `import`.",
  "",
  "## Layout",
  "",
  "Rows of boxes are drawn left to right. `draw_box` advances the column cursor,",
  "`next_row` starts a new row.",
  "",
  "| Call | Effect |",
  "|---|---|",
  "| `draw_column_headers(spec=None)` | header row of column labels (`labels`, `height`=14, `font-size`=11) |",
  "| `draw_row_header(label, spec=None)` | right-aligned label in the left margin |",
  "| `draw_box(label=None, spec=None)` | one box; `span`, `borders`, `fill`, `height` |",
  "| `draw_group_label_header(span, label)` | borderless 14px-high label box |",
  "| `next_row(height=None)` | move down one row and back to column 0 |",
  "| `draw_gap(height=70, gap=10, edge=15)` | discontinuity marker across the row |",
  "| `draw_bottom()` | closing line across the row width |",
  "| `draw_line(x1, y1, x2, y2, spec=None)` | arbitrary line |",
  "| `append_scene(node)` | add a raw SVG node |",
  "",
  "Box labels: a number is drawn as hex (two digits per spanned column), a string",
  "as plain text, and a node from `build_label`/`hex_label` as-is.",
  "",
  "## Attribute specs",
  "",
  "A spec is `None`, a dict of SVG attributes, the name of a registered style, or",
  "a list of specs merged left to right (later keys win).",
  "",
  "Predefined styles: `hex`, `plain`, `math`, `sub`, `bold`, `dotted`,",
  "`box-first`, `box-related`, `box-last`, `box-above`, `box-below`.",
  "",
  "```python",
  "register_attrs(\"reserved\", \x7b\"fill\": \"#eeeeee\"\x7d)",
  "draw_box(\"Reserved\", [\"box-related\", \"reserved\", \x7b\"span\": 4\x7d])",
  "```",
  "",
  "## Labels",
  "",
  "```python",
  "build_label(\"Length\", \"math\")                 # text in the math style",
  "build_label(\"x\", \"math\", [\"sub\", \"0\"])        # x with subscript 0",
  "hex_label(0x41, 4)                            # \"0041\" in the hex style",
  "build_span(\"bold\", [\"emphasis\"])              # tspan node",
  "```",
  "",
  "## Geometry",
  "",
  "`left_margin` (40), `right_margin` (1), `bottom_margin` (1), `box_width` (40),",
  "`boxes_per_row` (16), `row_height` (30), and the cursor `box_index` and",
  "`diagram_y` can be read and assigned:",
  "",
  "```python",
  "boxes_per_row = 8",
  "box_width = 80",
  "```",
  "",
  "## Raw SVG",
  "",
  "`svg_line`, `svg_rect`, `svg_circle`, `svg_ellipse`, `svg_path`,",
  "`svg_polygon`, `svg_text`, `svg_tspan`, `svg_group` build nodes; keyword",
  "arguments become attributes (`stroke_width=2` is `stroke-width`).",
  "`merge_attrs`, `add_attrs`, `get_attrs`, `get_content`, `set_content` and",
  "`add_content` return modified copies."
]

/-- Each line ends in a line break. -/
def cheatsheet : String := String.join (cheatsheetLines.map (· ++ "\n"))

end WireSketch.Command
