import EdgeRoutes.Template.Basic

/-! The parts that all files share. -/

namespace EdgeRoutes.Template

/-- The comment at the top of every file. -/
def header : List Piece :=
  [
    .lines ["/**"],
    .text " * Generated by edgeconf ",
    .value "version",
    .text " for target: ",
    .value "target",
    .newline,
    .text " * Server blocks: ",
    .value "server_count",
    .newline,
    .whenSet "warnings" [
      .lines [
        " *",
        " * Conversion warnings:"],
      .forEach "warning" "warnings" [
        .text " *   - ",
        .comment "warning",
        .newline]] [],
    .lines [
      " *",
      " * Regenerate from the nginx configuration instead of editing by hand.",
      " */"]]

/-- The helper that fills in variables. -/
def variableExpansion : List Piece :=
  [
    .lines ["// Expands nginx variables ($name or $\x7bname\x7d) left in generated strings."],
    .whenSet "typescript"
      [.lines ["function expandVars(template: string, vars: Record<string, string>): string \x7b"]]
      [.lines ["function expandVars(template, vars) \x7b"]],
    .lines [
      "  return template.replace(/\\$(?:\\\x7b(\\w+)\\\x7d|(\\w+))/g, (match, braced, bare) => \x7b",
      "    const name = braced || bare;",
      "    return Object.prototype.hasOwnProperty.call(vars, name) ? vars[name] : match;",
      "  \x7d);",
      "\x7d"]]

end EdgeRoutes.Template
