import PluginCatalog.Main
import PluginCatalog.Proofs.Catalog.Services
import PluginCatalog.Proofs.Constraint.Indeterminacy
import PluginCatalog.Proofs.Constraint.Spans
import PluginCatalog.Proofs.Constraint.Spelling
import PluginCatalog.Proofs.Constraint.Viability
import PluginCatalog.Proofs.Files.Embedding
import PluginCatalog.Proofs.Index.Fallback
import PluginCatalog.Proofs.Index.Scan
import PluginCatalog.Proofs.Locale.Resolution
import PluginCatalog.Proofs.Metadata.DesktopEntry
import PluginCatalog.Proofs.Metadata.Items
import PluginCatalog.Proofs.Property.Ordering
import PluginCatalog.Proofs.Record.Accessors
import PluginCatalog.Proofs.Record.Authors
import PluginCatalog.Proofs.Record.Equality
import PluginCatalog.Proofs.Record.Idempotence
import PluginCatalog.Proofs.Record.Library
import PluginCatalog.Proofs.Record.OlderNames
import PluginCatalog.Proofs.Record.Outcomes
import PluginCatalog.Proofs.Record.Translations
