import SqlMapper.Interchange.Config
import SqlMapper.Interchange.Declaration
import SqlMapper.Interchange.Fill
import SqlMapper.Interchange.Mapper
import SqlMapper.Interchange.MySql
import SqlMapper.Interchange.Page
import SqlMapper.Interchange.Select
import SqlMapper.Mapper.Read
import SqlMapper.Mapper.Write
import SqlMapper.MySql.Pool
import SqlMapper.Proofs.Condition.Render
import SqlMapper.Proofs.Text.Quote
import SqlMapper.Record.Basic
import SqlMapper.Proofs.Select.Meaning
import SqlMapper.Proofs.Select.Run
import SqlMapper.Proofs.Select.Placeholders
import SqlMapper.Proofs.Select.Outline
import SqlMapper.Proofs.Statement.Assembly
import SqlMapper.Proofs.Statement.Outline
import SqlMapper.Proofs.Criteria.Filled
import SqlMapper.Proofs.Mapper.Write
import SqlMapper.Proofs.Statement.Safety
import SqlMapper.Proofs.Mapper.Safety
import SqlMapper.Proofs.Mapper.Read
import SqlMapper.Proofs.Mapper.Outline
import SqlMapper.Proofs.Record.Fieldwise
import SqlMapper.Proofs.Criteria.Runs
import SqlMapper.Proofs.Record.Filling
import SqlMapper.Proofs.Mapper.Entities
import SqlMapper.Proofs.Mapper.Page
import SqlMapper.Proofs.Statement.Binding
import SqlMapper.Proofs.Select.Applied
import SqlMapper.Proofs.Field.Equality
import SqlMapper.Proofs.Record.RoundTrip
import SqlMapper.Proofs.Condition.Reader
import SqlMapper.Proofs.Select.Reader
import SqlMapper.Proofs.Record.Slots
import SqlMapper.Proofs.Binary.Finite
import SqlMapper.Proofs.Json.Parts
import SqlMapper.Proofs.Value.Json
import SqlMapper.Proofs.Statement.Filters
import SqlMapper.Proofs.Mapper.Filters
import SqlMapper.Proofs.Json.Tokens
import SqlMapper.Proofs.Text.Utf8
import SqlMapper.Proofs.Uuid
import SqlMapper.Proofs.Json.RoundTrip
import SqlMapper.Proofs.MySql.RoundTrip
import SqlMapper.Proofs.MySql.Connection
import SqlMapper.Proofs.MySql.Integers
import SqlMapper.Proofs.Statement.Scalars
import SqlMapper.Proofs.Mapper.Scalars
import SqlMapper.Proofs.Mapper.Addressing
import SqlMapper.Proofs.Statement.Batch
import SqlMapper.Proofs.Statement.Partition
import SqlMapper.Proofs.Mapper.Batch
import SqlMapper.Proofs.Select.Reuse
import SqlMapper.Proofs.Select.Lexical
import SqlMapper.Proofs.Text.Split
import SqlMapper.Proofs.Text.Identifier
import SqlMapper.Proofs.Statement.Order
import SqlMapper.Proofs.Page.Tiling
import SqlMapper.Proofs.Row.Scalar
import SqlMapper.Proofs.Condition.Tag
import SqlMapper.Proofs.Declaration.Options
import SqlMapper.Proofs.Declaration.Precedence
import SqlMapper.Proofs.Condition.Shape
import SqlMapper.Proofs.Decimal.Integer
import SqlMapper.Proofs.Field.Integers
import SqlMapper.Proofs.Value.Integers
import SqlMapper.Proofs.Calendar.Reader
import SqlMapper.Proofs.Calendar.RoundTrip
import SqlMapper.Proofs.Field.Text
import SqlMapper.Proofs.Field.Emptiness
import SqlMapper.Proofs.Record.Emptiness
import SqlMapper.Proofs.Text.Underscore
import SqlMapper.Proofs.Record.Naming
